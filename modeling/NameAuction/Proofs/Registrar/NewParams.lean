import NameAuction.Proofs.Registrar.Lossless
import NameAuction.Proofs.Registrar.Queues

/-!
# New parameters

A host may set any parameters that pass their own check, and what the registrar exports after that holds the
same records with the new parameters (`genesis_setParams`).  The check of a genesis looks at the parameters
and at the records together in one respect only: every name must be under the root.  So the new genesis can be
imported if the root has stayed or there are no names, and otherwise it is refused for its first name
(`importable_setParams_iff`).
-/

namespace NameAuction

/-! ### A genesis with other parameters -/

namespace Genesis

variable {genesis : Genesis} {params : Params}

def names (genesis : Genesis) : List Name :=
  genesis.auctions.map (·.name) ++ genesis.registrations.map (·.name)

def withParams (genesis : Genesis) (params : Params) : Genesis := { genesis with params := params }

theorem secondLevelId_of_ne {name : Name} {root other : String} {id : NameId}
    (h : secondLevelId name root = .ok id) (hne : other ≠ root) :
    secondLevelId name other = .error (.genesis (.wrongRoot name other)) := by
  obtain ⟨hname, parts, hparts, hroot⟩ := secondLevelId_eq_ok_iff.mp h
  have hother : parts.root ≠ other := fun heq => hne (heq.symm.trans hroot)
  refine Except.bind_eq_error_iff.mpr (.inr ⟨(), by rw [checkName_of_check hname.check_eq]; rfl, ?_⟩)
  refine Except.bind_eq_error_iff.mpr (.inr ⟨(), ensure_eq_ok_iff.mpr hname.levels_eq, ?_⟩)
  refine Except.bind_eq_error_iff.mpr (.inr ⟨parts, by rw [hparts]; rfl, ?_⟩)
  exact Except.bind_eq_error_iff.mpr (.inl (if_neg hother))

/-- **With other parameters a genesis still passes**, if the root is the same or there is no name. -/
theorem check_withParams (h : genesis.check = .ok ()) (hparams : params.check = .ok ())
    (hroot : params.root = genesis.params.root ∨ genesis.names = []) :
    (genesis.withParams params).check = .ok () := by
  obtain ⟨u, -, h⟩ := Except.bind_eq_ok_iff.mp h
  obtain ⟨auctions, hauctions, h⟩ := Except.bind_eq_ok_iff.mp h
  obtain ⟨registrations, hregistrations, hrest⟩ := Except.bind_eq_ok_iff.mp h
  have hnames : checkAuctions params.root (genesis.bids.map (·.id)) [] genesis.auctions = .ok auctions ∧
      checkRegistrations params.root auctions [] genesis.registrations = .ok registrations := by
    rcases hroot with heq | hnil
    · rw [heq]
      exact ⟨hauctions, hregistrations⟩
    · obtain ⟨hnoAuctions, hnoRegistrations⟩ := List.append_eq_nil_iff.mp hnil
      rw [List.map_eq_nil_iff.mp hnoAuctions] at hauctions ⊢
      rw [List.map_eq_nil_iff.mp hnoRegistrations] at hregistrations ⊢
      exact ⟨hauctions, hregistrations⟩
  refine Except.bind_eq_ok_iff.mpr ⟨(), by rw [withParams, hparams]; rfl, ?_⟩
  refine Except.bind_eq_ok_iff.mpr ⟨auctions, hnames.1, ?_⟩
  exact Except.bind_eq_ok_iff.mpr ⟨registrations, hnames.2, hrest⟩

theorem check_withParams_of_ne (h : genesis.check = .ok ()) (hparams : params.check = .ok ())
    (hne : params.root ≠ genesis.params.root) {name : Name} (hname : genesis.names.head? = some name) :
    (genesis.withParams params).check = .error (.genesis (.wrongRoot name params.root)) := by
  obtain ⟨u, -, h⟩ := Except.bind_eq_ok_iff.mp h
  obtain ⟨auctions, hauctions, h⟩ := Except.bind_eq_ok_iff.mp h
  obtain ⟨registrations, hregistrations, -⟩ := Except.bind_eq_ok_iff.mp h
  obtain ⟨old, auctionList, bids, registrationList, resolutions⟩ := genesis
  refine Except.bind_eq_error_iff.mpr (.inr ⟨(), by rw [withParams, hparams]; rfl, ?_⟩)
  cases auctionList with
  | cons auction rest =>
    obtain rfl : auction.name = name := Option.some.inj hname
    obtain ⟨id, hid, -⟩ := of_checkAuctions hauctions (List.mem_cons_self ..)
    exact Except.bind_eq_error_iff.mpr (.inl (Except.bind_eq_error_iff.mpr
      (.inl (secondLevelId_of_ne hid hne))))
  | nil =>
    refine Except.bind_eq_error_iff.mpr (.inr ⟨[], rfl, ?_⟩)
    cases registrationList with
    | cons registration rest =>
      obtain rfl : registration.name = name := Option.some.inj hname
      obtain ⟨id, hid⟩ := of_checkRegistrations hregistrations (List.mem_cons_self ..)
      exact Except.bind_eq_error_iff.mpr (.inl (Except.bind_eq_error_iff.mpr
        (.inl (secondLevelId_of_ne hid hne))))
    | nil => cases hname

end Genesis

/-! ### The registrar -/

namespace Registrar

variable {registrar next : Registrar} {genesis : Genesis} {params : Params}

theorem params_of_genesis (h : registrar.genesis = .ok genesis) : genesis.params = registrar.params := by
  obtain ⟨auctions, -, h⟩ := Except.bind_eq_ok_iff.mp h
  obtain ⟨bids, -, h⟩ := Except.bind_eq_ok_iff.mp h
  obtain ⟨registrations, -, h⟩ := Except.bind_eq_ok_iff.mp h
  obtain ⟨resolutions, -, h⟩ := Except.bind_eq_ok_iff.mp h
  cases h
  rfl

theorem genesis_setParams (h : registrar.genesis = .ok genesis)
    (hset : registrar.setParams params = .ok next) : next.genesis = .ok (genesis.withParams params) := by
  obtain ⟨-, rfl⟩ := setParams_eq_ok hset
  obtain ⟨auctions, hauctions, h⟩ := Except.bind_eq_ok_iff.mp h
  obtain ⟨bids, hbids, h⟩ := Except.bind_eq_ok_iff.mp h
  obtain ⟨registrations, hregistrations, h⟩ := Except.bind_eq_ok_iff.mp h
  obtain ⟨resolutions, hresolutions, h⟩ := Except.bind_eq_ok_iff.mp h
  cases h
  refine Except.bind_eq_ok_iff.mpr ⟨auctions, hauctions, ?_⟩
  refine Except.bind_eq_ok_iff.mpr ⟨bids, hbids, ?_⟩
  refine Except.bind_eq_ok_iff.mpr ⟨registrations, hregistrations, ?_⟩
  exact Except.bind_eq_ok_iff.mpr ⟨resolutions, hresolutions, rfl⟩

theorem ofGenesis_of_check (h : genesis.check = .ok ()) (bank : Bank) (rates : Rates) :
    ∃ restored, ofGenesis bank rates genesis = .ok restored := by
  obtain ⟨store, hstore⟩ := Genesis.seed_eq_ok h Store.empty.layer
  obtain ⟨u, hparams, -⟩ := Except.bind_eq_ok_iff.mp h
  exact ⟨_, Except.bind_eq_ok_iff.mpr ⟨store, hstore, start_eq_ok.mpr ⟨Fault.lift_eq_ok hparams, rfl⟩⟩⟩

/-- **When new parameters keep the state importable.**  If what a registrar exports passes its check, then what
it exports after new parameters have been set holds the same records, and it passes its check and can be loaded
exactly if the root is the same as before or there are neither auctions nor registrations.  Otherwise it is
refused, because the first name is not under the new root. -/
theorem importable_setParams_iff (hgenesis : registrar.genesis = .ok genesis) (hcheck : genesis.check = .ok ())
    (hset : registrar.setParams params = .ok next) :
    next.genesis = .ok (genesis.withParams params) ∧
      ((genesis.withParams params).check = .ok () ↔
        params.root = registrar.params.root ∨ genesis.auctions = [] ∧ genesis.registrations = []) ∧
      ((genesis.withParams params).check = .ok () → ∀ bank rates,
        ∃ restored, ofGenesis bank rates (genesis.withParams params) = .ok restored) ∧
      (params.root ≠ registrar.params.root → ∀ name, genesis.names.head? = some name →
        (genesis.withParams params).check = .error (.genesis (.wrongRoot name params.root))) := by
  have hparams := (setParams_eq_ok hset).1
  have hold := params_of_genesis hgenesis
  have hrefused : params.root ≠ registrar.params.root → ∀ name, genesis.names.head? = some name →
      (genesis.withParams params).check = .error (.genesis (.wrongRoot name params.root)) :=
    fun hne name hname => Genesis.check_withParams_of_ne hcheck hparams (hold ▸ hne) hname
  have hempty : genesis.names = [] ↔ genesis.auctions = [] ∧ genesis.registrations = [] := by
    rw [Genesis.names, List.append_eq_nil_iff, List.map_eq_nil_iff, List.map_eq_nil_iff]
  refine ⟨genesis_setParams hgenesis hset, ⟨fun hpasses => ?_, fun hroot => ?_⟩,
    fun hpasses => ofGenesis_of_check hpasses, hrefused⟩
  · rw [← hempty]
    by_contra hnot
    obtain ⟨hne, hnames⟩ := not_or.mp hnot
    obtain ⟨name, rest, hlist⟩ := List.exists_cons_of_ne_nil hnames
    rw [hrefused hne name (by rw [hlist]; rfl)] at hpasses
    cases hpasses
  · refine Genesis.check_withParams hcheck hparams ?_
    rw [hold, hempty]
    exact hroot

theorem genesis_opened : ∃ genesis, opened.genesis = .ok genesis ∧ genesis.check = .ok () ∧
    genesis.names = [⟨"label.terra"⟩] := by
  have hexport : (opened.genesis >>= fun genesis => do
      genesis.check
      return genesis.names) = .ok [⟨"label.terra"⟩] := by decide +kernel
  obtain ⟨genesis, hgenesis, hrest⟩ := Except.bind_eq_ok_iff.mp hexport
  obtain ⟨u, hcheck, hnames⟩ := Except.bind_eq_ok_iff.mp hrest
  exact ⟨genesis, hgenesis, hcheck, Except.ok.inj hnames⟩

/-- Names may be shorter from now on. -/
theorem importable_setParams_iff_opened :
    ∃ genesis next, opened.genesis = .ok genesis ∧ genesis.check = .ok () ∧
      opened.setParams { Params.standard with minNameLength := ⟨1, by decide⟩ } = .ok next ∧
      next.genesis = .ok (genesis.withParams { Params.standard with minNameLength := ⟨1, by decide⟩ }) ∧
      (genesis.withParams { Params.standard with minNameLength := ⟨1, by decide⟩ }).check = .ok () := by
  obtain ⟨genesis, hgenesis, hcheck, -⟩ := genesis_opened
  have hset : (opened.setParams
      { Params.standard with minNameLength := ⟨1, by decide⟩ }).isOk = true := by decide +kernel
  obtain ⟨next, hnext⟩ := exists_ok_of_isOk hset
  obtain ⟨hexport, himportable, -⟩ := importable_setParams_iff hgenesis hcheck hnext
  exact ⟨genesis, next, hgenesis, hcheck, hnext, hexport, himportable.mpr (.inl rfl)⟩

def underLuna : Params := { Params.standard with root := "luna" }

/-- **Parameters that are accepted can make an export unusable**: the root is changed during an auction. -/
theorem setParams_breaks_import :
    Reachable opened ∧ ∃ genesis next later, opened.genesis = .ok genesis ∧ genesis.check = .ok () ∧
      opened.setParams underLuna = .ok next ∧ next.genesis = .ok later ∧
      later.check = .error (.genesis (.wrongRoot ⟨"label.terra"⟩ "luna")) ∧
      ofGenesis next.bank next.rates later = .error (.genesis (.wrongRoot ⟨"label.terra"⟩ "luna")) := by
  obtain ⟨genesis, hgenesis, hcheck, hnames⟩ := genesis_opened
  have hset : (opened.setParams underLuna).isOk = true := by decide +kernel
  obtain ⟨next, hnext⟩ := exists_ok_of_isOk hset
  have hroot : underLuna.root ≠ genesis.params.root := by
    rw [params_of_genesis hgenesis]
    decide
  have hrefused : (genesis.withParams underLuna).check =
      .error (.genesis (.wrongRoot ⟨"label.terra"⟩ "luna")) :=
    Genesis.check_withParams_of_ne hcheck (setParams_eq_ok hnext).1 hroot (by rw [hnames]; rfl)
  have hseed : (genesis.withParams underLuna).seed Store.empty.layer =
      .error (.genesis (.wrongRoot ⟨"label.terra"⟩ "luna")) :=
    Except.bind_eq_error_iff.mpr (.inl hrefused)
  exact ⟨reachable_standard.called _, genesis, next, _, hgenesis, hcheck, hnext,
    genesis_setParams hgenesis hnext, hrefused, Except.bind_eq_error_iff.mpr (.inl hseed)⟩

end Registrar

end NameAuction
