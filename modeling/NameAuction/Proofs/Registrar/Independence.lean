import NameAuction.Proofs.Genesis.Export
import NameAuction.Proofs.Registrar.Locality

/-!
# Independent commands commute

Two commands are independent if they are about different names, touch different accounts and do not write the
same reverse entry (`Independent`).  Then neither changes what the other one reads (`Independent.book_eq`,
`Independent.balance_eq`), so each has the same result before and after the other, and both orders end with the
same disk and the same balances (`Reachable.deliver_commutes`).
-/

namespace NameAuction.Registrar

open Command

/-- Two commands that have nothing to do with each other. -/
structure Independent (registrar : Registrar) (first second : Command) : Prop where
  name : ∀ id, first.name.id = .ok id → second.name.id ≠ .ok id
  touched : ∀ account, first.Touches registrar.store account → ¬ second.Touches registrar.store account
  address : ∀ account, first.address? registrar.store = some account →
    second.address? registrar.store ≠ some account

variable {registrar next other : Registrar} {book book' : Book} {setting : Setting} {outcome : Outcome}
  {first second command : Command} {now later : Time}

/-! ### What an independent command leaves -/

namespace Independent

theorem symm (h : registrar.Independent first second) : registrar.Independent second first where
  name id hid hid' := h.name id hid' hid
  touched account htouched htouched' := h.touched account htouched' htouched
  address account haddress haddress' := h.address account haddress' haddress

theorem not_owns (h : registrar.Independent first second) {slot : Slot}
    (hslot : second.Owns registrar.store slot) : ¬ first.Owns registrar.store slot := by
  rintro (⟨hname, hown⟩ | haddress)
  · cases hslot with
    | ofName hname' hown' =>
      cases hown.symm.trans hown'
      exact h.name _ hname hname'
    | ofAccount => cases hown
  · cases hslot with
    | ofName _ hown' => cases hown'
    | ofAccount haddress' => exact h.address _ haddress haddress'

theorem book_eq (h : registrar.Independent first second) (hkeeps : registrar.store.Keeps book)
    (hhandled : Handled setting book first outcome) (slot : Slot)
    (hslot : second.Owns registrar.store slot) : outcome.book slot = book slot :=
  hhandled.book_eq hkeeps (h.not_owns hslot)

/-- An independent command leaves the balance of a command's signer as it is. -/
theorem balance_eq (h : registrar.Independent first second) (hkeeps : registrar.store.Keeps book)
    (hhandled : Handled setting book first outcome) (happlied : Applied registrar now outcome next) :
    next.bank.balance second.signer = registrar.bank.balance second.signer := by
  have huntouched : ¬ first.Touches registrar.store second.signer :=
    fun htouched => h.touched _ htouched (.inl rfl)
  exact happlied.balance_eq hhandled hkeeps (fun heq => huntouched (.inl heq))
    fun heq => huntouched (.of_displaced heq)

end Independent

/-- **A command is answered alike before and after an independent one that is carried out.** -/
theorem Covers.deliver_after (h : registrar.Covers book) (hfits : registrar.bank.Fits)
    (hindependent : registrar.Independent first second)
    (hhandled : Handled (registrar.setting now) book first outcome)
    (happlied : Applied registrar now outcome next) (later : Time) :
    AnsweredAlike registrar next book outcome.book later second := by
  have hcovers := h.of_applied happlied (hhandled.balances h.sound.keeps.finitary)
    (h.sound.sane.handled hhandled)
  have hsetting : next.setting = registrar.setting := by
    funext time
    rw [Registrar.setting, Registrar.setting, happlied.params, happlied.rates]
  exact h.deliver_alike hcovers hfits (happlied.fits hfits) hsetting
    (hindependent.book_eq h.sound.keeps hhandled)
    (hindependent.balance_eq h.sound.keeps hhandled happlied) later

/-! ### The slots of a command -/

/-- A command that finds its own slots as they were writes the reverse entry of the same account. -/
theorem address?_eq (hkeeps : registrar.store.Keeps book) (hkeeps' : other.store.Keeps book')
    (hown : ∀ slot, command.Owns registrar.store slot → book' slot = book slot) :
    command.address? other.store = command.address? registrar.store := by
  cases command with
  | clearSubName name owner =>
    cases hids : name.ids with
    | error fault =>
      simp only [address?, hids]
      rfl
    | ok ids =>
      rw [address?_clearSubName hkeeps hids, address?_clearSubName hkeeps' hids]
      exact hown (.resolution ids.1 ids.2) (.ofName (id_of_ids hids) rfl)
  | _ => rfl

theorem owns_of_owns (hkeeps : registrar.store.Keeps book) (hkeeps' : other.store.Keeps book')
    (hown : ∀ slot, command.Owns registrar.store slot → book' slot = book slot) {slot : Slot}
    (h : command.Owns other.store slot) : command.Owns registrar.store slot := by
  cases h with
  | ofName hname hslot => exact .ofName hname hslot
  | ofAccount haddress => exact .ofAccount (address?_eq hkeeps hkeeps' hown ▸ haddress)

/-! ### What both orders end with -/

/-- The two have the same disk, and their banks hold the same. -/
structure Coincides (registrar other : Registrar) : Prop where
  disk : registrar.disk = other.disk
  balance : ∀ account, registrar.bank.balance account = other.bank.balance account
  escrow : registrar.bank.escrow = other.bank.escrow
  burned : registrar.bank.burned = other.bank.burned

theorem Coincides.refl (registrar : Registrar) : registrar.Coincides registrar :=
  ⟨rfl, fun _ => rfl, rfl, rfl⟩

/-- A disk with room is determined by the book that it keeps. -/
theorem disk_eq_of_keeps (h : registrar.store.Keeps book) (h' : other.store.Keeps book)
    (hroom : registrar.disk.room = none) (hroom' : other.disk.room = none) : registrar.disk = other.disk := by
  obtain ⟨⟨entries, room⟩, bank, rates, params, log⟩ := registrar
  obtain ⟨⟨entries', room'⟩, bank', rates', params', log'⟩ := other
  obtain rfl : room = none := hroom
  obtain rfl : room' = none := hroom'
  obtain rfl : entries = entries' := h.entries_eq h'
  rfl

theorem Coincides.of_swapped {mid mid' last last' : Registrar} {one two one' two' : Outcome}
    (hone : Applied registrar now one mid) (htwo : Applied mid later two' last)
    (htwo' : Applied registrar later two mid') (hone' : Applied mid' now one' last')
    (hmovesOne : one'.moves = one.moves) (hmovesTwo : two'.moves = two.moves)
    (hbook : two'.book = one'.book) : last.Coincides last' := by
  have hfunds := Funds.applyAll_append hone.funds htwo.funds
  have hfunds' := Funds.applyAll_append htwo'.funds hone'.funds
  rw [hmovesTwo] at hfunds
  rw [hmovesOne] at hfunds'
  have hsame : last.bank.funds = last'.bank.funds :=
    Funds.applyAll_perm List.perm_append_comm hfunds hfunds'
  refine ⟨disk_eq_of_keeps htwo.keeps (hbook ▸ hone'.keeps) htwo.room hone'.room,
    fun account => congrFun (congrArg Funds.balance hsame) account, congrArg Funds.escrow hsame, ?_⟩
  refine Bundle.eq_of_held_eq fun denom => ?_
  rw [htwo.burned, hone.burned, hone'.burned, htwo'.burned, hmovesOne, hmovesTwo]
  omega

/-- Two independent commands that are carried out in both orders lead to one book. -/
theorem Independent.books_eq {mid mid' : Registrar} {one two one' two' : Outcome}
    (h : registrar.Independent first second) (hkeeps : registrar.store.Keeps book)
    (hone : Handled (registrar.setting now) book first one)
    (htwo : Handled (registrar.setting later) book second two)
    (hmid : mid.store.Keeps one.book) (hmid' : mid'.store.Keeps two.book)
    (htwo' : Handled (registrar.setting later) one.book second two')
    (hone' : Handled (registrar.setting now) two.book first one')
    (hsameTwo : SameEffect (second.Owns registrar.store) two two')
    (hsameOne : SameEffect (first.Owns registrar.store) one one') : two'.book = one'.book := by
  have hownTwo := h.book_eq hkeeps hone
  have hownOne := h.symm.book_eq hkeeps htwo
  funext slot
  by_cases hfirst : first.Owns registrar.store slot
  · have hsecond : ¬ second.Owns mid.store slot :=
      fun howns => h.symm.not_owns hfirst (owns_of_owns hkeeps hmid hownTwo howns)
    rw [hsameOne.book slot hfirst, htwo'.book_eq hmid hsecond]
  · have hnot : ¬ first.Owns mid'.store slot :=
      fun howns => hfirst (owns_of_owns hkeeps hmid' hownOne howns)
    rw [hone'.book_eq hmid' hnot]
    by_cases hsecond : second.Owns registrar.store slot
    · exact hsameTwo.book slot hsecond
    · have hnot' : ¬ second.Owns mid.store slot :=
        fun howns => hsecond (owns_of_owns hkeeps hmid hownTwo howns)
      rw [htwo'.book_eq hmid hnot', hone.book_eq hkeeps hfirst, htwo.book_eq hkeeps hsecond]

/-! ### Both orders -/

/-- **Independent commands commute.**  If the total of the bank fits and the escrow covers the liabilities, then
each of two independent commands has the same result before and after the other one, and both orders end with
the same disk, the same balances, the same escrow and the same burned total. -/
theorem Reachable.deliver_commutes (h : Reachable registrar) {total : Bundle}
    (htotal : registrar.bank.total = .ok total) (hcovered : registrar.Covered)
    (hindependent : registrar.Independent first second) (now later : Time) :
    ((registrar.deliver now first).2.deliver later second).1 = (registrar.deliver later second).1 ∧
      ((registrar.deliver later second).2.deliver now first).1 = (registrar.deliver now first).1 ∧
      ((registrar.deliver now first).2.deliver later second).2.Coincides
        ((registrar.deliver later second).2.deliver now first).2 := by
  obtain ⟨book, hsound⟩ := h.sound
  have hcovers := hcovered.covers hsound
  have hfits := Bank.fits_of_total htotal
  have hself : ∀ command now, AnsweredAlike registrar registrar book book now command :=
    fun command => hcovers.deliver_alike hcovers hfits hfits rfl (fun _ _ => rfl) rfl
  cases hself first now with
  | refused hfirst =>
    rw [hfirst]
    cases hself second later with
    | refused hsecond =>
      rw [hsecond, hfirst]
      exact ⟨rfl, rfl, .refl _⟩
    | done htwo _ _ hsecond _ htwoApplied =>
      rw [hsecond]
      cases hcovers.deliver_after hfits hindependent.symm htwo htwoApplied now with
      | refused hrefused hrefused' =>
        cases hrefused.symm.trans hfirst
        rw [hrefused']
        exact ⟨rfl, rfl, .refl _⟩
      | done _ _ _ hdone => cases hdone.symm.trans hfirst
  | done hone _ _ hfirst _ honeApplied =>
    rw [hfirst]
    cases hcovers.deliver_after hfits hindependent hone honeApplied later with
    | refused hsecond hsecond' =>
      rw [hsecond', hsecond, hfirst]
      exact ⟨rfl, rfl, .refl _⟩
    | done htwo htwo' hsameTwo hsecond hsecond' htwoApplied htwoApplied' =>
      rw [hsecond', hsecond]
      cases hcovers.deliver_after hfits hindependent.symm htwo htwoApplied now with
      | refused hrefused => cases hrefused.symm.trans hfirst
      | done hagain hone' hsameOne _ hdone' _ honeApplied' =>
        obtain rfl := hagain.unique hone
        rw [hdone']
        refine ⟨rfl, rfl, .of_swapped honeApplied htwoApplied' htwoApplied honeApplied' hsameOne.moves
          hsameTwo.moves ?_⟩
        exact hindependent.books_eq hsound.keeps hone htwo honeApplied.keeps htwoApplied.keeps htwo' hone'
          hsameTwo hsameOne

def fundedRun : List Call := crowdedRun ++ [.mint Demo.carol (.ofCoin (luna 600000000))]

def bidOfCarol : Command := .sealedBid ⟨"other.terra"⟩ Id.zero (luna 600000000) Demo.carol

theorem independent_fundedRun : (standard.afterAll fundedRun).Independent revealOfBob bidOfCarol where
  name id hid hid' := by
    have hlabel : revealOfBob.name.id = .ok (.ofText "label.terra") := by decide +kernel
    have hother : bidOfCarol.name.id = .ok (.ofText "other.terra") := by decide +kernel
    have heq := (Except.ok.inj (hid.symm.trans hlabel)).symm.trans (Except.ok.inj (hid'.symm.trans hother))
    exact absurd heq (by decide +kernel)
  touched account := by
    have htop : (revealOfBob.topBid? (standard.afterAll fundedRun).store).map (·.bidder) =
        some Demo.alice := by decide +kernel
    rintro (rfl | hleads) (heq | hnone)
    · exact absurd heq (by decide +kernel)
    · cases hnone
    · cases htop.symm.trans hleads
      exact absurd heq (by decide +kernel)
    · cases hnone
  address account haddress := by cases haddress

theorem deliver_commutes_fundedRun :
    (standard.afterAll fundedRun).Independent revealOfBob bidOfCarol ∧
      ((standard.afterAll fundedRun).deliver (moment 400000) revealOfBob).1.isOk = true ∧
      (((standard.afterAll fundedRun).deliver (moment 400000) revealOfBob).2.deliver (moment 500000)
        bidOfCarol).1.isOk = true ∧
      (((standard.afterAll fundedRun).deliver (moment 400000) revealOfBob).2.deliver (moment 500000)
        bidOfCarol).2.Coincides
        (((standard.afterAll fundedRun).deliver (moment 500000) bidOfCarol).2.deliver (moment 400000)
          revealOfBob).2 := by
  have hreachable : Reachable (standard.afterAll fundedRun) := reachable_standard.calledAll _
  have hrun : (standard.afterAll fundedRun).bank.total.isOk = true ∧
      ((standard.afterAll fundedRun).deliver (moment 400000) revealOfBob).1.isOk = true ∧
      ((standard.afterAll fundedRun).deliver (moment 500000) bidOfCarol).1.isOk = true := by
    decide +kernel
  obtain ⟨hfits, hfirst, hlater⟩ := hrun
  obtain ⟨total, htotal⟩ := exists_ok_of_isOk hfits
  obtain ⟨hsecond, -, hcoincides⟩ := hreachable.deliver_commutes htotal (covered_standard fundedRun)
    independent_fundedRun (moment 400000) (moment 500000)
  refine ⟨independent_fundedRun, hfirst, ?_, hcoincides⟩
  rw [hsecond]
  exact hlater

end NameAuction.Registrar
