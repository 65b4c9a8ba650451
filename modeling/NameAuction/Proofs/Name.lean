import NameAuction.Proofs.Commitment
import NameAuction.Proofs.Defects

/-!
# The keys of a name

A name is known by the digests of two texts: the second-level name that it is or belongs to, and the label
below that, which is empty for a second-level name.  A text is put together again from the pieces between its
dots, and a piece has no dots (`splitDots_eq`, `Name.dot_notMem_of_mem_labels`), so the two texts tell the
labels of a name (`Name.Parts.secondLevel_injective`).  As no label of a proper name is empty, they also tell
how many labels there are, and so the name (`Name.eq_of_parts_eq`).  `Name.keys_tell_names` says what follows
for the digests, as far as these tell texts apart.
-/

namespace NameAuction

/-! ### Pieces between dots -/

theorem splitDots_eq (cs : List Char) : splitDots cs = cs.splitOn '.' := by
  induction cs with
  | nil => rfl
  | cons c rest ih =>
    rw [splitDots, List.splitOn_cons_eq_if_modifyHead, ← ih]
    by_cases hdot : c = '.'
    · simp [hdot]
    · have hne : splitDots rest ≠ [] := ih ▸ List.splitOn_ne_nil '.' rest
      rw [if_neg hdot, if_neg (by simpa using hdot)]
      cases hpieces : splitDots rest with
      | nil => exact absurd hpieces hne
      | cons piece pieces => rfl

theorem dot_notMem_of_mem_splitDots {cs piece : List Char} (h : piece ∈ splitDots cs) : '.' ∉ piece := by
  induction cs generalizing piece with
  | nil =>
    obtain rfl := List.mem_singleton.mp h
    simp
  | cons c rest ih =>
    unfold splitDots at h
    split at h
    · rcases List.mem_cons.mp h with rfl | hrest
      · simp
      · exact ih hrest
    · rename_i hdot
      have hc : '.' ≠ c := Ne.symm hdot
      split at h
      · rename_i first pieces hpieces
        rw [hpieces] at ih
        rcases List.mem_cons.mp h with rfl | hrest
        · exact List.not_mem_cons_of_ne_of_not_mem hc (ih (List.mem_cons_self ..))
        · exact ih (List.mem_cons_of_mem _ hrest)
      · obtain rfl := List.mem_singleton.mp h
        exact List.not_mem_cons_of_ne_of_not_mem hc List.not_mem_nil

namespace Name

/-! ### Labels -/

theorem dot_notMem_of_mem_labels {name : Name} {label : String} (h : label ∈ name.labels) :
    '.' ∉ label.toList := by
  obtain ⟨piece, hpiece, rfl⟩ := List.mem_map.mp h
  rw [String.toList_ofList]
  exact dot_notMem_of_mem_splitDots hpiece

/-- **A name is its labels with dots between them.** -/
theorem toList_text (name : Name) : name.text.toList = ['.'].intercalate (name.labels.map String.toList) := by
  have hlabels : name.labels.map String.toList = splitDots name.text.toList := by
    rw [labels, List.map_map]
    exact List.map_id'' (fun _ => String.toList_ofList) _
  rw [hlabels, splitDots_eq, List.intercalate_splitOn]

theorem labels_of_intercalate {name : Name} {labels : List String} (hne : labels ≠ [])
    (hdots : ∀ label ∈ labels, '.' ∉ label.toList)
    (h : name.text.toList = ['.'].intercalate (labels.map String.toList)) : name.labels = labels := by
  have hsplit : splitDots name.text.toList = labels.map String.toList := by
    rw [splitDots_eq, h]
    refine List.splitOn_intercalate '.' (fun piece hpiece => ?_) (by simpa using hne)
    obtain ⟨label, hlabel, rfl⟩ := List.mem_map.mp hpiece
    exact hdots label hlabel
  rw [Name.labels, hsplit, List.map_map]
  exact List.map_id'' (fun _ => String.ofList_toList) _

theorem eq_of_labels_eq {name other : Name} (h : name.labels = other.labels) : name = other := by
  have htexts : name.text = other.text := String.toList_inj.mp (by rw [toList_text, toList_text, h])
  exact congrArg Name.mk htexts

/-- **No label of a proper name is empty.** -/
theorem ne_empty_of_mem_labels {name : Name} (h : name.check = .ok ()) {label : String}
    (hlabel : label ∈ name.labels) : label ≠ "" := by
  have hflawless : name.labels.findSome? labelFlaw? = none := by
    unfold check at h
    split at h
    · cases h
    · split at h
      · cases h
      · split at h
        · cases h
        · assumption
  rintro rfl
  cases List.findSome?_eq_none_iff.mp hflawless "" hlabel

/-! ### Parts -/

variable {name other : Name} {parts parts' : Parts}

theorem labels_of_parts (h : name.parts = .ok parts) :
    name.labels = [parts.parent, parts.root] ∧ parts.child = "" ∨
      name.labels = [parts.child, parts.parent, parts.root] := by
  unfold Name.parts at h
  split at h
  · rename_i hlabels
    obtain rfl := Except.ok.inj h
    exact .inl ⟨hlabels, rfl⟩
  · rename_i hlabels
    obtain rfl := Except.ok.inj h
    exact .inr hlabels
  · cases h

structure Parts.Dotless (parts : Parts) : Prop where
  root : '.' ∉ parts.root.toList
  parent : '.' ∉ parts.parent.toList

theorem Parts.Dotless.of_parts (h : name.parts = .ok parts) : parts.Dotless := by
  have hmem : parts.root ∈ name.labels ∧ parts.parent ∈ name.labels := by
    rcases labels_of_parts h with ⟨hlabels, -⟩ | hlabels
    · simp [hlabels]
    · simp [hlabels]
  exact ⟨dot_notMem_of_mem_labels hmem.1, dot_notMem_of_mem_labels hmem.2⟩

theorem Parts.toList_secondLevel (parts : Parts) :
    parts.secondLevel.toList = parts.parent.toList ++ '.' :: parts.root.toList := by
  simp [secondLevel]

/-- **A second-level name tells its two labels.** -/
theorem Parts.secondLevel_injective (h : parts.Dotless) (h' : parts'.Dotless)
    (heq : parts.secondLevel = parts'.secondLevel) :
    parts.parent = parts'.parent ∧ parts.root = parts'.root := by
  have hlists := congrArg String.toList heq
  rw [toList_secondLevel, toList_secondLevel] at hlists
  obtain ⟨hparent, hroot⟩ := append_cons_inj_of_notMem_right h.root h'.root hlists
  exact ⟨String.toList_inj.mp hparent, String.toList_inj.mp hroot⟩

theorem Parts.Dotless.parts_secondLevel (h : parts.Dotless) :
    (Name.mk parts.secondLevel).parts = .ok ⟨parts.root, parts.parent, ""⟩ := by
  have hlabels : (Name.mk parts.secondLevel).labels = [parts.parent, parts.root] := by
    refine labels_of_intercalate (by simp) ?_ ?_
    · simpa using ⟨h.parent, h.root⟩
    · simp [Parts.toList_secondLevel, List.intercalate]
  rw [Name.parts, hlabels]

/-- The child of a proper name is empty just where the name has two levels. -/
theorem child_eq_empty_iff (hcheck : name.check = .ok ()) (h : name.parts = .ok parts) :
    parts.child = "" ↔ name.labels = [parts.parent, parts.root] := by
  rcases labels_of_parts h with ⟨hlabels, hchild⟩ | hlabels
  · exact iff_of_true hchild hlabels
  · refine iff_of_false (ne_empty_of_mem_labels hcheck (by simp [hlabels])) (by simp [hlabels])

/-- **A proper name is known by its parts.** -/
theorem eq_of_parts_eq (hcheck : name.check = .ok ()) (hcheck' : other.check = .ok ())
    (h : name.parts = .ok parts) (h' : other.parts = .ok parts) : name = other := by
  refine eq_of_labels_eq ?_
  by_cases hchild : parts.child = ""
  · rw [(child_eq_empty_iff hcheck h).mp hchild, (child_eq_empty_iff hcheck' h').mp hchild]
  · have hthree : ∀ {named : Name}, named.parts = .ok parts →
        named.labels = [parts.child, parts.parent, parts.root] := fun hnamed =>
      (labels_of_parts hnamed).resolve_left fun htwo => hchild htwo.2
    rw [hthree h, hthree h']

/-! ### Keys -/

/-- A proper name of two or three levels of which some texts have the ones that are hashed for it. -/
structure Keyed (texts : Set String) (name : Name) : Prop where
  checked : name.check = .ok ()
  levels : name.levels = 2 ∨ name.levels = 3
  hashed : ∀ parts, name.parts = .ok parts → parts.secondLevel ∈ texts ∧ parts.child ∈ texts

/-- Its digests, and the second-level name that it is or belongs to. -/
structure Keys (name : Name) (id child : NameId) (above : Name) : Prop where
  ids_eq : name.ids = .ok (id, child)
  id_eq : name.id = .ok id
  secondLevel_eq : name.secondLevel = .ok above
  /-- The second-level name has the same first digest, and that of no label. -/
  above_eq : above.ids = .ok (id, .ofText "")

theorem keys_of_parts (h : name.parts = .ok parts) :
    name.Keys (.ofText parts.secondLevel) (.ofText parts.child) ⟨parts.secondLevel⟩ where
  ids_eq := ids_of_parts h
  id_eq := id_of_parts h
  secondLevel_eq := by
    rw [Name.secondLevel, h]
    rfl
  above_eq := by
    rw [ids_of_parts (Parts.Dotless.of_parts h).parts_secondLevel]
    rfl

theorem ofText_injOn {texts : Set String} (hseparates : Hash.Separates texts) :
    Set.InjOn NameId.ofText texts := by
  intro text htext text' htext' heq
  exact hseparates htext htext' (congrArg Id.toBlock heq)

/-- **Keys tell names.**  Proper names of two or three levels have keys.  As far as digests tell apart what is
hashed for two of them, and the empty text, the keys are the same for equal names only, and the first keys for
names with the same second-level name only; a name below another one does not have the keys of the other. -/
theorem keys_tell_names {texts : Set String} (hseparates : Hash.Separates texts) (hempty : "" ∈ texts)
    (h : name.Keyed texts) (h' : other.Keyed texts) :
    ∃ id child above id' child' above', name.Keys id child above ∧ other.Keys id' child' above' ∧
      (name.ids = other.ids ↔ name = other) ∧ (id = id' ↔ above = above') ∧
      (name.levels = 3 → name.ids ≠ above.ids) := by
  have hinj := ofText_injOn hseparates
  obtain ⟨parts, hparts⟩ := exists_parts h.levels
  obtain ⟨parts', hparts'⟩ := exists_parts h'.levels
  obtain ⟨habove, hchild⟩ := h.hashed parts hparts
  obtain ⟨habove', hchild'⟩ := h'.hashed parts' hparts'
  have hkeys := keys_of_parts hparts
  have hkeys' := keys_of_parts hparts'
  refine ⟨_, _, _, _, _, _, hkeys, hkeys',
    ⟨fun heq => ?_, fun heq => by rw [heq]⟩, ⟨fun heq => ?_, fun heq => ?_⟩,
    fun hlevels heq => ?_⟩
  · rw [hkeys.ids_eq, hkeys'.ids_eq] at heq
    obtain ⟨hid, hids⟩ := Prod.mk.inj (Except.ok.inj heq)
    obtain ⟨hparent, hroot⟩ := Parts.secondLevel_injective (.of_parts hparts) (.of_parts hparts')
      (hinj habove habove' hid)
    have hsame : parts = parts' := by
      cases parts
      cases parts'
      rw [Parts.mk.injEq]
      exact ⟨hroot, hparent, hinj hchild hchild' hids⟩
    exact eq_of_parts_eq h.checked h'.checked hparts (hsame ▸ hparts')
  · exact congrArg Name.mk (hinj habove habove' heq)
  · exact congrArg NameId.ofText (congrArg Name.text heq)
  · -- the child of three levels is not empty, so its digest is not that of no label
    rw [hkeys.ids_eq, hkeys.above_eq] at heq
    have hnone := hinj hchild hempty (Prod.mk.inj (Except.ok.inj heq)).2
    rw [levels, (child_eq_empty_iff h.checked hparts).mp hnone] at hlevels
    cases hlevels

def siblingTexts : Set String := {text | text ∈ ["wallet.terra", "한국", "pay", ""]}

theorem keys_tell_names_siblings :
    Hash.Separates siblingTexts ∧ "" ∈ siblingTexts ∧ (Name.mk "한국.wallet.terra").Keyed siblingTexts ∧
      (Name.mk "pay.wallet.terra").Keyed siblingTexts ∧
      (Name.mk "한국.wallet.terra").ids ≠ (Name.mk "pay.wallet.terra").ids ∧
      (Name.mk "한국.wallet.terra").ids ≠ (Name.mk "wallet.terra").ids := by
  have hdigests : ∀ text ∈ ["wallet.terra", "한국", "pay", ""], ∀ other ∈ ["wallet.terra", "한국", "pay", ""],
      Hash.shortDigest (Bytes.ofText text) = Hash.shortDigest (Bytes.ofText other) → text = other := by
    decide +kernel
  have hseparates : Hash.Separates siblingTexts := fun text htext other hother =>
    hdigests text htext other hother
  have hempty : "" ∈ siblingTexts := List.mem_of_elem_eq_true rfl
  have hparts : (Name.mk "한국.wallet.terra").parts = .ok ⟨"terra", "wallet", "한국"⟩ := by decide +kernel
  have hparts' : (Name.mk "pay.wallet.terra").parts = .ok ⟨"terra", "wallet", "pay"⟩ := by decide +kernel
  have hkeyed : (Name.mk "한국.wallet.terra").Keyed siblingTexts := by
    refine ⟨by decide +kernel, .inr (by decide +kernel), fun parts h => ?_⟩
    obtain rfl := Except.ok.inj (hparts.symm.trans h)
    exact ⟨List.mem_of_elem_eq_true (by decide +kernel), List.mem_of_elem_eq_true (by decide +kernel)⟩
  have hkeyed' : (Name.mk "pay.wallet.terra").Keyed siblingTexts := by
    refine ⟨by decide +kernel, .inr (by decide +kernel), fun parts h => ?_⟩
    obtain rfl := Except.ok.inj (hparts'.symm.trans h)
    exact ⟨List.mem_of_elem_eq_true (by decide +kernel), List.mem_of_elem_eq_true (by decide +kernel)⟩
  obtain ⟨id, child, above, id', child', above', hkeys, hkeys', hsame, -, habove⟩ :=
    keys_tell_names hseparates hempty hkeyed hkeyed'
  refine ⟨hseparates, hempty, hkeyed, hkeyed', fun heq => absurd (hsame.mp heq) (by decide +kernel), ?_⟩
  have hsecond : above = ⟨"wallet.terra"⟩ := by
    have heq := hkeys.secondLevel_eq
    rw [Name.secondLevel, hparts] at heq
    exact (Except.ok.inj heq).symm.trans (by decide +kernel)
  rw [← hsecond]
  exact habove (by decide +kernel)

end Name

end NameAuction
