import NameAuction.Proofs.Commitment
import NameAuction.Proofs.Registrar.BidFate

/-!
# Opening sealed bids

A reveal opens the bid that its account has now, or it is refused and nothing changes
(`Sound.seal_of_revealed`, `Sound.reveal_differs`).  So a stored bid has one opening on its name, and a
commitment that others have copied is of no use to them, because the account stands in its text
(`sealed_bid_opens_once`).

On another name the commitment may have another opening: what a salt has more than another one can be the
beginning of the name (`preimage_eq_iff_trades`).
-/

namespace NameAuction.Registrar

open Book Step

variable {registrar next : Registrar} {book : Book} {turn : Turn} {id : NameId} {bidder : Account} {bid : Bid}
  {name : Name} {salt : String} {amount : Coin} {now : Time}

/-! ### Reveals that open a bid, and others -/

theorem Sound.seal_of_revealed (h : registrar.Sound book) {events : List Event} (hid : name.id = .ok id)
    (hok : registrar.deliver now (.reveal name salt amount bidder) = (.ok events, next)) :
    (Command.reveal name salt amount bidder).check = .ok () ∧
      ∃ bid, book (.bid id bidder) = some bid ∧ Commitment.seal salt name amount bidder = bid.commitment := by
  obtain ⟨outcome, hcheck, hhandled, -⟩ := h.deliver_ok hok
  refine ⟨hcheck, ?_⟩
  cases hhandled with
  | revealedTop hown _ _ hbid hseal =>
    obtain rfl := Except.ok.inj (hown.symm.trans hid)
    exact ⟨_, hbid, hseal⟩
  | revealedBelow hown _ _ hbid hseal =>
    obtain rfl := Except.ok.inj (hown.symm.trans hid)
    exact ⟨_, hbid, hseal⟩

theorem revealBid_differs {auction : Auction} (hkeeps : turn.store.Keeps book) (hid : name.id = .ok id)
    (hauction : book (.auction id) = some auction) (hphase : auction.phase = .reveal)
    (hbid : book (.bid id bidder) = some bid)
    (hdiffers : Commitment.seal salt name amount bidder ≠ bid.commitment) :
    (revealBid name salt amount bidder).Ends turn (fun _ _ => False)
      fun fault => fault = .commitmentDiffers bid.commitment (.seal salt name amount bidder) := by
  refine .bind (.raise (fun found hfound => ?_) fun fault hfault => ?_)
  · obtain rfl : found = id := Except.ok.inj (hfound.symm.trans hid)
    refine .bind (.find (hkeeps.auction? found) (fun other hother => ?_) fun hnone => ?_)
    · obtain rfl : other = auction := Option.some.inj (hother.symm.trans hauction)
      refine .bind (.ensure (fun _ => ?_) fun hnot => absurd hphase hnot)
      refine .bind (.find (hkeeps.bid? found bidder) (fun stored hstored => ?_) fun hnone => ?_)
      · obtain rfl : stored = bid := Option.some.inj (hstored.symm.trans hbid)
        exact .bind (.ensure (fun hseal => absurd hseal hdiffers) fun _ => rfl)
      · cases hnone.symm.trans hbid
    · cases hnone.symm.trans hauction
  · cases hfault.symm.trans hid

/-- **A reveal of something else than what was sealed is refused**, and nothing changes. -/
theorem Sound.reveal_differs (h : registrar.Sound book) {auction : Auction}
    (hcheck : (Command.reveal name salt amount bidder).check = .ok ()) (hid : name.id = .ok id)
    (hauction : book (.auction id) = some auction) (hphase : auction.phase = .reveal)
    (hbid : book (.bid id bidder) = some bid)
    (hdiffers : Commitment.seal salt name amount bidder ≠ bid.commitment) (now : Time) :
    registrar.deliver now (.reveal name salt amount bidder) =
      (.error (.commitmentDiffers bid.commitment (.seal salt name amount bidder)), registrar) := by
  have hends := revealBid_differs (firstTurn_keeps h.keeps) hid hauction hphase hbid hdiffers
  rw [deliver, hcheck]
  show registrar.run now (revealBid name salt amount bidder) = _
  rw [run]
  cases hstep : (revealBid name salt amount bidder).run registrar.firstTurn with
  | ok result => exact (hends.of_ok hstep).elim
  | error fault => rw [hends.of_error hstep]

/-! ### A bid over time -/

/-- Without a new bid of the account, it has the given bid or none. -/
def KeptSince (id : NameId) (bidder : Account) (bid : Bid) (history : List Delivery) (book : Book) : Prop :=
  (∀ made ∈ history, made.bids id bidder = false) →
    book (.bid id bidder) = some bid ∨ book (.bid id bidder) = none

theorem Proceeds.keptSince {after : Book} {history : List Delivery} {delivery : Option Delivery}
    (h : Proceeds book id after delivery) (hkept : KeptSince id bidder bid history book) :
    KeptSince id bidder bid (history ++ delivery.toList) after := by
  intro hnot
  have hbefore := hkept fun made hmade => hnot made (List.mem_append_left _ hmade)
  rcases h.bid_stays_or_goes fun made hmade => hnot made (List.mem_append_right _ hmade) with hsame | hgone
  · rwa [hsame]
  · exact .inr hgone

/-- **Whatever is called, an account reveals the bid that it has**, until it places another one. -/
theorem Sound.seal_of_revealed_later (h : registrar.Sound book) (hbid : book (.bid id bidder) = some bid)
    {calls : List Call} (hnot : ∀ made ∈ registrar.deliveries calls, made.bids id bidder = false)
    {events : List Event} (hid : name.id = .ok id)
    (hok : (registrar.afterAll calls).deliver now (.reveal name salt amount bidder) = (.ok events, next)) :
    (Command.reveal name salt amount bidder).check = .ok () ∧
      Commitment.seal salt name amount bidder = bid.commitment := by
  have hstart : KeptSince id bidder bid [] book := fun _ => .inl hbid
  obtain ⟨last, hlast, hkept⟩ :=
    h.afterAll_of_proceeds (fun _ hinv hproceeds => hproceeds.keptSince hinv) hstart calls
  obtain ⟨hcheck, opened, hopened, hseal⟩ := hlast.seal_of_revealed hid hok
  refine ⟨hcheck, ?_⟩
  rcases hkept hnot with hsame | hgone
  · obtain rfl := Option.some.inj (hsame.symm.trans hopened)
    exact hseal
  · cases hgone.symm.trans hopened

/-- Calls can lead to a reveal, with one of the given texts, of the bid that the account has now. -/
def CanReveal (registrar : Registrar) (texts : Set String) (name : Name) (id : NameId) (bidder : Account) :
    Prop :=
  ∃ calls now salt amount events next,
    (∀ made ∈ registrar.deliveries calls, made.bids id bidder = false) ∧
      Commitment.preimage salt name amount bidder ∈ texts ∧
      (registrar.afterAll calls).deliver now (.reveal name salt amount bidder) = (.ok events, next)

/-- **A sealed bid opens in one way only**, as far as the short digest tells the texts apart.  Two reveals on
one name that pass their checks and have the same commitment are the same.  So a bid that is stored has at most
one salt and amount, and in the reveal phase any others are refused, and of the accounts that have stored one
commitment on a name at most one can ever reveal it. -/
theorem sealed_bid_opens_once {texts : Set String} (hseparates : Hash.Separates texts) (name : Name) :
    (∀ salt salt' amount amount' bidder bidder', Commitment.Candidate texts name salt amount bidder →
      Commitment.Candidate texts name salt' amount' bidder' →
      Commitment.seal salt name amount bidder = Commitment.seal salt' name amount' bidder' →
        salt = salt' ∧ amount = amount' ∧ bidder = bidder') ∧
    ∀ registrar id, Reachable registrar → name.id = .ok id →
      (∀ bidder bid, registrar.store.bid? id bidder = .ok (some bid) →
        (∀ salt salt' amount amount', Commitment.Candidate texts name salt amount bidder →
          Commitment.Candidate texts name salt' amount' bidder →
          Commitment.seal salt name amount bidder = bid.commitment →
          Commitment.seal salt' name amount' bidder = bid.commitment → salt = salt' ∧ amount = amount') ∧
        ∀ auction, registrar.store.auction? id = .ok (some auction) → auction.phase = .reveal →
          ∀ salt amount, (Command.reveal name salt amount bidder).check = .ok () →
            Commitment.seal salt name amount bidder ≠ bid.commitment →
            ∀ now, registrar.deliver now (.reveal name salt amount bidder) =
              (.error (.commitmentDiffers bid.commitment (.seal salt name amount bidder)), registrar)) ∧
      ∀ bidder bidder' bid bid', registrar.store.bid? id bidder = .ok (some bid) →
        registrar.store.bid? id bidder' = .ok (some bid') → bid.commitment = bid'.commitment →
        registrar.CanReveal texts name id bidder → registrar.CanReveal texts name id bidder' →
          bidder = bidder' := by
  refine ⟨fun _ _ _ _ _ _ h h' hseal => h.unique hseparates h' hseal, fun registrar id hreachable hid => ?_⟩
  obtain ⟨book, hsound⟩ := hreachable.sound
  refine ⟨fun bidder bid hbid => ⟨?_, ?_⟩, ?_⟩
  · intro salt salt' amount amount' h h' hseal hseal'
    obtain ⟨hsalt, hamount, -⟩ := h.unique hseparates h' (hseal.trans hseal'.symm)
    exact ⟨hsalt, hamount⟩
  · intro auction hauction hphase salt amount hcheck hdiffers now
    exact hsound.reveal_differs hcheck hid (hsound.keeps.auction_eq hauction) hphase
      (hsound.keeps.bid_eq hbid) hdiffers now
  · rintro bidder bidder' bid bid' hbid hbid' hcopied ⟨calls, now, salt, amount, events, next, hnot, hmem, hok⟩
      ⟨calls', now', salt', amount', events', next', hnot', hmem', hok'⟩
    obtain ⟨hcheck, hseal⟩ :=
      hsound.seal_of_revealed_later (hsound.keeps.bid_eq hbid) hnot hid hok
    obtain ⟨hcheck', hseal'⟩ :=
      hsound.seal_of_revealed_later (hsound.keeps.bid_eq hbid') hnot' hid hok'
    have hsame := hseal.trans (hcopied.trans hseal'.symm)
    exact (Commitment.Candidate.unique hseparates ⟨hcheck, hmem⟩ ⟨hcheck', hmem'⟩ hsame).2.2

/-- Alice bids for a name, and Bob bids with her commitment. -/
def copiedRun : List Call :=
  [.mint Demo.alice (.ofCoin (luna 600000000)), .mint Demo.bob (.ofCoin (luna 700000000)),
    .deliver (moment 1000) (.openAuction ⟨"label.terra"⟩ Demo.shop),
    .deliver (moment 2000) (.sealedBid ⟨"label.terra"⟩
      (.seal "salt" ⟨"label.terra"⟩ (luna 550000000) Demo.alice) (luna 600000000) Demo.alice),
    .deliver (moment 3000) (.sealedBid ⟨"label.terra"⟩
      (.seal "salt" ⟨"label.terra"⟩ (luna 550000000) Demo.alice) (luna 700000000) Demo.bob),
    .endBlock (moment 200000)]

def copiedBid (deposit : Coin) (bidder : Account) : Bid :=
  ⟨.seal "salt" ⟨"label.terra"⟩ (luna 550000000) Demo.alice, deposit, bidder⟩

/-- The texts of the reveals by which Alice and Bob would open that commitment. -/
def copiedTexts : Set String :=
  {Commitment.preimage "salt" ⟨"label.terra"⟩ (luna 550000000) Demo.alice,
    Commitment.preimage "salt" ⟨"label.terra"⟩ (luna 550000000) Demo.bob}

/-- Alice can reveal the bid that both have sealed, and Bob cannot. -/
theorem sealed_bid_opens_once_copiedRun :
    (standard.afterAll copiedRun).CanReveal copiedTexts ⟨"label.terra"⟩ (.ofText "label.terra") Demo.alice ∧
      ¬ (standard.afterAll copiedRun).CanReveal copiedTexts ⟨"label.terra"⟩ (.ofText "label.terra") Demo.bob ∧
      (standard.afterAll copiedRun).deliver (moment 300000)
          (.reveal ⟨"label.terra"⟩ "salt" (luna 550000000) Demo.bob) =
        (.error (.commitmentDiffers (.seal "salt" ⟨"label.terra"⟩ (luna 550000000) Demo.alice)
          (.seal "salt" ⟨"label.terra"⟩ (luna 550000000) Demo.bob)), standard.afterAll copiedRun) := by
  obtain ⟨hdigests, hauction, halice, hbob, hrevealed⟩ :
      Commitment.seal "salt" ⟨"label.terra"⟩ (luna 550000000) Demo.bob ≠
          .seal "salt" ⟨"label.terra"⟩ (luna 550000000) Demo.alice ∧
        (standard.afterAll copiedRun).store.auction? (.ofText "label.terra") =
          .ok (some ⟨⟨"label.terra"⟩, .reveal, moment 459200, none⟩) ∧
        (standard.afterAll copiedRun).store.bid? (.ofText "label.terra") Demo.alice =
          .ok (some (copiedBid (luna 600000000) Demo.alice)) ∧
        (standard.afterAll copiedRun).store.bid? (.ofText "label.terra") Demo.bob =
          .ok (some (copiedBid (luna 700000000) Demo.bob)) ∧
        ((standard.afterAll copiedRun).deliver (moment 300000)
          (.reveal ⟨"label.terra"⟩ "salt" (luna 550000000) Demo.alice)).1.isOk = true := by
    decide +kernel
  have hname : (⟨"label.terra"⟩ : Name).id = .ok (.ofText "label.terra") := by decide +kernel
  have hchecked : (Command.reveal ⟨"label.terra"⟩ "salt" (luna 550000000) Demo.bob).check = .ok () := by
    decide +kernel
  have hseparates : Hash.Separates copiedTexts := Set.injOn_pair.mpr fun hsame =>
    absurd (congrArg Id.mk hsame.symm) hdigests
  have hreachable : Reachable (standard.afterAll copiedRun) := reachable_standard.calledAll _
  generalize standard.afterAll copiedRun = registrar at *
  obtain ⟨events, hok⟩ := exists_events_of_isOk hrevealed
  have hcan : registrar.CanReveal copiedTexts ⟨"label.terra"⟩ (.ofText "label.terra") Demo.alice :=
    ⟨[], _, _, _, _, _, nofun, Set.mem_insert _ _, hok⟩
  obtain ⟨hstored, hcopies⟩ :=
    (sealed_bid_opens_once hseparates ⟨"label.terra"⟩).2 registrar _ hreachable hname
  refine ⟨hcan, fun hcopied => ?_, ?_⟩
  · exact absurd (hcopies _ _ _ _ halice hbob rfl hcan hcopied) (by decide +kernel)
  · exact (hstored _ _ hbob).2 _ hauction rfl _ _ hchecked hdigests _

/-! ### Commitments and names -/

/-- **What a commitment binds of a name.**  For two different names the texts of two commitments are the same
exactly if the amounts and the accounts are, and the one salt goes on with what the other name begins with; then
the salts have different lengths, one of them has a colon, and so has one of the names.  A bid whose commitment
has been made for one name is revealed on the other in this case only, as far as the short digest tells the
texts apart. -/
theorem preimage_eq_iff_trades {name name' : Name} (hne : name ≠ name') :
    (∀ salt salt' amount amount' bidder bidder', Coin.check amount = .ok () → Coin.check amount' = .ok () →
      (Commitment.preimage salt name amount bidder = Commitment.preimage salt' name' amount' bidder' ↔
        (Commitment.Trades salt name salt' name' ∨ Commitment.Trades salt' name' salt name) ∧
          amount = amount' ∧ bidder = bidder')) ∧
    (∀ salt salt', Commitment.Trades salt name salt' name' ∨ Commitment.Trades salt' name' salt name →
      salt.utf8ByteSize ≠ salt'.utf8ByteSize ∧ (':' ∈ salt.toList ∨ ':' ∈ salt'.toList) ∧
        (':' ∈ name.text.toList ∨ ':' ∈ name'.text.toList)) ∧
    ∀ texts registrar id, Hash.Separates texts → Reachable registrar → name'.id = .ok id →
      ∀ bidder bid salt amount maker, registrar.store.bid? id bidder = .ok (some bid) →
        Commitment.Candidate texts name salt amount maker →
        bid.commitment = Commitment.seal salt name amount maker →
        ∀ now salt' amount' events next, Commitment.preimage salt' name' amount' bidder ∈ texts →
          registrar.deliver now (.reveal name' salt' amount' bidder) = (.ok events, next) →
            (Commitment.Trades salt name salt' name' ∨ Commitment.Trades salt' name' salt name) ∧
              amount = amount' ∧ maker = bidder := by
  have hiff : ∀ salt salt' amount amount' bidder bidder', Coin.check amount = .ok () →
      Coin.check amount' = .ok () →
      (Commitment.preimage salt name amount bidder = Commitment.preimage salt' name' amount' bidder' ↔
        (Commitment.Trades salt name salt' name' ∨ Commitment.Trades salt' name' salt name) ∧
          amount = amount' ∧ bidder = bidder') := by
    intro salt salt' amount amount' bidder bidder' h h'
    rw [Commitment.preimage_eq_iff h h', Commitment.stem_eq_iff_of_ne hne]
  refine ⟨hiff, ?_, ?_⟩
  · rintro salt salt' (htrades | htrades)
    · exact ⟨Nat.ne_of_lt htrades.length_lt, .inr htrades.colon_mem_salt, .inl htrades.colon_mem_name⟩
    · exact ⟨Nat.ne_of_gt htrades.length_lt, .inl htrades.colon_mem_salt, .inr htrades.colon_mem_name⟩
  · intro texts registrar id hseparates hreachable hid bidder bid salt amount maker hbid hmade hcommitment now
      salt' amount' events next hmem hok
    obtain ⟨book, hsound⟩ := hreachable.sound
    obtain ⟨hcheck, opened, hopened, hseal⟩ := hsound.seal_of_revealed hid hok
    obtain rfl := Option.some.inj ((hsound.keeps.bid_eq hbid).symm.trans hopened)
    have hdigests := congrArg Id.toBlock (hcommitment.symm.trans hseal.symm)
    exact (hiff _ _ _ _ _ _ (Command.amount_check hmade.checked) (Command.amount_check hcheck)).mp
      (hseparates hmade.text_mem hmem hdigests)

/-- A letter and its colon change sides; with salts of one length nothing does. -/
theorem preimage_eq_iff_trades_label :
    (⟨"b:label.terra"⟩ : Name) ≠ ⟨"label.terra"⟩ ∧
      Commitment.preimage "a" ⟨"b:label.terra"⟩ (luna 550000000) Demo.alice =
        Commitment.preimage "a:b" ⟨"label.terra"⟩ (luna 550000000) Demo.alice ∧
      Commitment.preimage "salt" ⟨"b:label.terra"⟩ (luna 550000000) Demo.alice ≠
        Commitment.preimage "rose" ⟨"label.terra"⟩ (luna 550000000) Demo.alice := by
  have hne : (⟨"b:label.terra"⟩ : Name) ≠ ⟨"label.terra"⟩ := by decide
  have hcheck : (luna 550000000).check = .ok () := by decide +kernel
  obtain ⟨hiff, htrades, -⟩ := preimage_eq_iff_trades hne
  refine ⟨hne, (hiff _ _ _ _ _ _ hcheck hcheck).mpr ⟨.inl ⟨"b", rfl, rfl⟩, rfl, rfl⟩, fun heq => ?_⟩
  exact (htrades _ _ ((hiff _ _ _ _ _ _ hcheck hcheck).mp heq).1).1 rfl

/-- Two names are auctioned, and Alice bids for one of them with a commitment that is made for the other. -/
def tradedRun : List Call :=
  [.mint Demo.alice (.ofCoin (luna 600000000)),
    .deliver (moment 1000) (.openAuction ⟨"b:label.terra"⟩ Demo.shop),
    .deliver (moment 1000) (.openAuction ⟨"label.terra"⟩ Demo.shop),
    .deliver (moment 2000) (.sealedBid ⟨"label.terra"⟩
      (.seal "a" ⟨"b:label.terra"⟩ (luna 550000000) Demo.alice) (luna 600000000) Demo.alice),
    .endBlock (moment 200000)]

/-- A commitment that has been made for one proper name is opened in the auction of another. -/
theorem tradedRun_opens_other_name :
    (⟨"b:label.terra"⟩ : Name) ≠ ⟨"label.terra"⟩ ∧
      (Command.reveal ⟨"b:label.terra"⟩ "a" (luna 550000000) Demo.alice).check = .ok () ∧
      (Command.reveal ⟨"label.terra"⟩ "a:b" (luna 550000000) Demo.alice).check = .ok () ∧
      Commitment.preimage "a" ⟨"b:label.terra"⟩ (luna 550000000) Demo.alice =
        Commitment.preimage "a:b" ⟨"label.terra"⟩ (luna 550000000) Demo.alice ∧
      Reachable (standard.afterAll tradedRun) ∧
      (standard.afterAll tradedRun).store.bid? (.ofText "label.terra") Demo.alice =
        .ok (some ⟨.seal "a" ⟨"b:label.terra"⟩ (luna 550000000) Demo.alice, luna 600000000, Demo.alice⟩) ∧
      ((standard.afterAll tradedRun).deliver (moment 300000)
        (.reveal ⟨"label.terra"⟩ "a:b" (luna 550000000) Demo.alice)).1.isOk = true := by
  refine ⟨by decide, by decide +kernel, by decide +kernel, by decide +kernel,
    reachable_standard.calledAll _, by decide +kernel, by decide +kernel⟩

end NameAuction.Registrar
