import NameAuction.Proofs.Registrar.Records

/-!
# Names under a root

An auction is opened only for a name under the root of the parameters, and its registration is for the same
name.  So as long as commands and sweeps run under one root, all auctions and registrations are for names
under it (`Handled.under`, `Swept.under`).
-/

namespace NameAuction

def Name.Under (root : String) (name : Name) : Prop := ∃ parts, name.parts = .ok parts ∧ parts.root = root

structure NameRecords.Under (root : String) (records : NameRecords) : Prop where
  auction : ∀ auction, records.auction = some auction → auction.name.Under root
  registration : ∀ registration, records.registration = some registration → registration.name.Under root

/-- All auctions and registrations are for names under the root. -/
def Book.Under (root : String) (book : Book) : Prop := ∀ id, (book.records id).Under root

theorem NameRecords.Under.named {root : String} {records : NameRecords} (h : records.Under root) :
    records.Named (Name.Under root) := ⟨h.auction, h.registration⟩

theorem NameRecords.Under.of_named {root : String} {records : NameRecords}
    (h : records.Named (Name.Under root)) : records.Under root := ⟨h.auction, h.registration⟩

namespace Registrar

open Book

variable {setting : Setting} {book : Book} {outcome : Outcome} {id : NameId}

theorem under_blank (root : String) : Book.blank.Under root := fun _ => ⟨nofun, nofun⟩

theorem Handled.under_own {command : Command} (hhandled : Handled setting book command outcome)
    (hname : command.name.id = .ok id) (h : (book.records id).Under setting.params.root) :
    (outcome.book.records id).Under setting.params.root := by
  have hopens : ∀ name organizer, command = .openAuction name organizer →
      name.Under setting.params.root := by
    rintro name organizer rfl
    cases hhandled with
    | opened hparts _ hroot => exact ⟨_, hparts, hroot⟩
  exact .of_named (hhandled.named_own hname hopens h.named)

/-- **A command leaves all names under the root of the parameters.** -/
theorem Handled.under {command : Command} (hhandled : Handled setting book command outcome)
    (h : book.Under setting.params.root) : outcome.book.Under setting.params.root :=
  hhandled.forall_records h fun id hname => hhandled.under_own hname (h id)

theorem Stepped.under {root : String} {records after : NameRecords} (h : records.Under root)
    (hstep : Stepped setting records after) : after.Under root := .of_named (hstep.named h.named)

/-- **A sweep leaves all names under any root under which they are.** -/
theorem Swept.under {root : String} (hswept : Swept setting book outcome) (hsane : book.Sane)
    (h : book.Under root) : outcome.book.Under root := by
  have hcarried : Carried setting (fun book => book.Sane ∧ book.Under root) fun _ _ => True :=
    { start := fun _ => trivial
      andThen := fun _ _ => trivial
      settled := fun ⟨hsane, hunder⟩ hqueued htime hsettled =>
        ⟨trivial, hsane.settled hqueued hsettled, hsettled.forall_records hsane htime hunder
          fun _ {_ _} hrecords hstep => hstep.under hrecords⟩ }
  exact (hswept.related hcarried ⟨hsane, h⟩).2.2

end Registrar

end NameAuction
