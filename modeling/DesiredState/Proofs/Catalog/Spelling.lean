import DesiredState.Proofs.Catalog.Kinds
import DesiredState.Proofs.Schema.Typed

/-!
# Normal values stay normal

What a caller gives is brought into normal form in one partition and may be
brought into normal form again in another one, as when a want map is handed on
as parameters.  The second time changes nothing, unless a normal value is
spelled like a synonym of another one.  No field of the catalogue is declared
so (`Catalog.unambiguous_of_declares`), and a field without synonyms cannot be.
-/

namespace DesiredState
namespace Catalog

/-- Some kind of the catalogue declares the field. -/
def Declares (field : Field) : Prop :=
  ∃ entry selector kind, kindOf entry selector = .ok kind ∧ field ∈ kind.schema.fields

/-- No synonym of the catalogue is itself a normal value. -/
theorem fields_unambiguous {entry : Entry} {selector : Selector} {kind : ResourceKind}
    (h : kindOf entry selector = .ok kind) :
    ∀ field ∈ kind.schema.fields, field.Unambiguous := by
  refine forall_kindOf h (by decide) (fun variety => ?_) (by decide) (by decide)
    (fun generation => ?_) (by decide) (by decide) (by decide)
  · cases variety <;> decide
  · cases generation <;> decide

/-- A value in normal form is its own normal form, whatever the partitions that
it is brought into it for, where the field has no synonyms or is one of the
catalogue. -/
theorem normalize_normalized {field : Field}
    (hfield : field.synonyms = [] ∨ Declares field) {first second : String}
    {value normal : Value} (h : field.normalize first value = .ok normal) :
    field.normalize second normal = .ok normal := by
  have hspelled : field.Unambiguous := by
    rcases hfield with hnone | ⟨entry, selector, kind, hkind, hdeclared⟩
    · intro pair hpair
      rw [hnone] at hpair
      cases hpair
    · exact fields_unambiguous hkind field hdeclared
  exact Field.normalize_of_admits hspelled (Field.yields_normalize.of_ok h)

/-- The format of a system log, which has synonyms. -/
def logFormat : Field :=
  ((Field.choice "syslog_format" ["rfc5424", "rfc3164", "legacy-bigip"]).sentAs
    "format").spelled [("syslog", "rfc5424"), ("bsd-syslog", "rfc3164")]

/-- A synonym is resolved once, and a reference is qualified once. -/
theorem logFormat_normalized :
    (logFormat.normalize "Common" (.text "bsd-syslog") = .ok (.text "rfc3164") ∧
        logFormat.normalize "Tenant" (.text "rfc3164") = .ok (.text "rfc3164")) ∧
      (Field.reference "pool").normalize "Common" (.text "p1") = .ok (.text "/Common/p1") ∧
        (Field.reference "pool").normalize "Tenant" (.text "/Common/p1") =
          .ok (.text "/Common/p1") := by
  have hdeclared : Declares logFormat :=
    ⟨.logEndpoint, ⟨some "remote-syslog", none⟩, LogEndpoint.kind .remoteSyslog, rfl, by decide⟩
  have hformat : logFormat.normalize "Common" (.text "bsd-syslog") = .ok (.text "rfc3164") := rfl
  have hpool : (Field.reference "pool").normalize "Common" (.text "p1") =
      .ok (.text "/Common/p1") := rfl
  exact ⟨⟨hformat, normalize_normalized (Or.inr hdeclared) hformat⟩,
    hpool, normalize_normalized (Or.inl rfl) hpool⟩

end Catalog
end DesiredState
