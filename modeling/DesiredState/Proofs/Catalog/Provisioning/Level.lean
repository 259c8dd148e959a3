import DesiredState.Proofs.Catalog.Repetition
import DesiredState.Proofs.Schema.Exactness

/-!
# Provisioning levels that can be reached

An entry has one attribute, its level, which is one of four words.  Against the
offline device a pass that gets past its own checks stores the level that it was
given, whatever was stored before: another level is written over it, and then a
single poll finds the device settled.

The check that a level is given, however, asks for a value that does not ask for
clearing, and `none`, the first of the four levels, is also the word for that.
`level_reached_iff` says that this is the only level that is not reached.
-/

namespace DesiredState
namespace Catalog
namespace Provisioning

open Pass

/-- The levels that are declared. -/
def levels : List String := ["none", "minimum", "nominal", "dedicated"]

variable {pass : Pass} {params want raw stored : Attributes} {partition level : String}
  {observed : Condition} {shelf : Device.Shelf}

/-! ## What is wanted -/

/-- Of the levels the one that asks for clearing is `none`. -/
theorem isClear_level_iff :
    ∀ level ∈ levels, (Value.text level).isClear = true ↔ level = "none" := by
  decide

/-- The level that is given is one of those that are declared, and is wanted as it is
given. -/
theorem wanted_of_given (hnormal : schema.want params partition = .ok want)
    (hgiven : params.get? "level" = some (.text level)) :
    want.get? "level" = some (.text level) ∧ level ∈ levels := by
  obtain ⟨value, hwanted⟩ := Attributes.contains_iff.mp
    (Schema.contains_of_given hnormal List.mem_cons_self
      (Attributes.contains_iff.mpr ⟨_, hgiven⟩))
  obtain ⟨field, hfield, -, given, hparams, hvalue⟩ := Schema.normalized_of_want hnormal hwanted
  obtain rfl := List.mem_singleton.mp hfield
  obtain rfl : Value.text level = given := Option.some.inj (hgiven.symm.trans hparams)
  have hholds := Field.normalize_holds hvalue
  obtain rfl := Field.eq_of_normalize_choice rfl rfl hvalue
  exact ⟨hwanted, hholds⟩

/-- A level is given where it is not `none`. -/
theorem isSet_level_iff (hnormal : schema.want params partition = .ok want)
    (hgiven : params.get? "level" = some (.text level)) :
    want.isSet "level" = true ↔ level ≠ "none" := by
  obtain ⟨hwanted, hlevel⟩ := wanted_of_given hnormal hgiven
  rw [Attributes.isSet, hwanted, Ne, ← isClear_level_iff level hlevel]
  simp

/-- What the schema takes is refused only where it gives no level. -/
theorem want_eq (hnormal : schema.want params partition = .ok want) :
    kind.want partition params .present =
      if want.isSet "level" then .ok want
      else .error (.validation "level" "'level' must be specified.") := by
  have hwant : kind.want partition params .present =
      (do validate want; return want : Except Fault Attributes) := by
    show (do
      let want ← schema.want params partition
      ResourceKind.refusePair params.names [] fun a b => want.isSet a && want.isSet b
      validate want
      return want : Except Fault Attributes) = _
    rw [hnormal]
    rfl
  rw [hwant, validate]
  split
  · rfl
  · rfl

/-! ## What is stored -/

/-- No level is refused as one that cannot be changed. -/
theorem exists_changes (want held : Attributes) :
    ∃ changes, kind.changes want held = .ok changes := by
  have hrespected : ∀ dependency ∈ kind.dependencies,
      dependency.check want held = .ok () := List.forall_mem_nil _
  rcases @Schema.changes_eq_error_or_ok schema kind.updatable _ want held hrespected with
    ⟨name, hname, hfixed, -⟩ | ⟨-, hok⟩
  · obtain rfl := List.mem_singleton.mp hname
    exact absurd hfixed.1 (by decide)
  · exact hok

/-- An entry of which nothing differs from what is wanted has the wanted level. -/
theorem level_of_written (hkind : pass.kind = kind)
    (haccepts : kind.Accepts partition params pass.target want)
    (hwanted : want.get? "level" = some (.text level))
    (hwritten : pass.Written want stored observed) :
    stored.get? "level" = some (.text level) := by
  have hsettled := hwritten.settled
  rw [hkind] at hsettled
  have hordinary := verbatim.ordinary haccepts List.mem_cons_self
  have hquiet := (Schema.changesAt_eq_nil_iff hordinary.single_comparison).mp
    (hsettled.quiet "level" List.mem_cons_self) _ hwanted
  have hshown : (kind.read stored).get? "level" = some (.text level) :=
    (Comparison.emits_exact_iff rfl _).mp hquiet
  rw [verbatim.get?_read hwritten.distinct] at hshown
  obtain ⟨value, hstored, hcoerced⟩ := Option.map_eq_some_iff.mp hshown
  -- a choice is shown as it is stored
  have hkept : kind.schema.coerced "level" value = value := by
    cases value <;> rfl
  rw [hstored, ← hcoerced, hkept]

/-! ## Passes -/

/-- Settling, which is all that follows, is over after one poll. -/
theorem prompt_of_live (hkind : pass.kind = kind) (htarget : pass.target = .present)
    (hlive : pass.checkOnly = false) : pass.Prompt where
  live := hlive
  flagless := by rw [hkind, (prompt .present).flagless]
  writesNothing := by rw [hkind, (prompt .present).writesNothing]
  followUps := by
    rw [hkind, htarget]
    intro followUp hfollowUp
    obtain rfl := List.mem_singleton.mp hfollowUp
    exact ⟨⟨rfl, Nat.le_refl 1⟩, nofun, nofun, nofun⟩

/-- A level that is refused leaves everything as it is. -/
theorem ends_of_refused (shelf : Device.Shelf) (hkind : pass.kind = kind)
    (htarget : pass.target = .present)
    (hnormal : schema.want params pass.key.partition = .ok want)
    (hunset : want.isSet "level" = false) :
    ((pass.reconcile params).run Device.offline shelf).ends =
      (some (.error ⟨false, .validation "level" "'level' must be specified."⟩), shelf) := by
  have hwant := want_eq hnormal
  rw [hunset, if_neg (by decide)] at hwant
  rw [reconcile, hkind, htarget, hwant]
  rfl

/-- A pass for a level that is not `none` succeeds, and stores that level. -/
theorem ends_of_set (hkind : pass.kind = kind) (htarget : pass.target = .present)
    (hlive : pass.checkOnly = false) (hpatience : pass.patience ≠ 0)
    (hnormal : schema.want params pass.key.partition = .ok want)
    (hwanted : want.get? "level" = some (.text level)) (hset : want.isSet "level" = true)
    (hstored : shelf.snapshot.get? pass.key.display = some raw) (hraw : raw.Distinct) :
    ∃ report after stored,
      ((pass.reconcile params).run Device.offline shelf).ends = (some (.ok report), after) ∧
        after.snapshot.get? pass.key.display = some stored ∧
          stored.get? "level" = some (.text level) := by
  have hwant := want_eq hnormal
  rw [hset, if_pos rfl, ← hkind, ← htarget] at hwant
  obtain ⟨changes, hchanges⟩ := exists_changes want (kind.read raw)
  have haccepts := ResourceKind.accepts_of_want hwant
  rw [hkind] at haccepts
  obtain ⟨report, after, hends, hafter⟩ :=
    (prompt_of_live hkind htarget hlive).ends_reconcile_of_some hpatience hwant
      (by rw [htarget]; decide) hstored (by rw [hkind]; exact hchanges)
  rw [leaves_eq hkind htarget, hkind] at hafter
  exact ⟨report, after, _, hends, hafter,
    level_of_written hkind haccepts hwanted (written_updated hkind haccepts hraw hchanges)⟩

/-- For every level that the schema takes, and whatever is stored of the entry, a live
pass succeeds and leaves the entry with exactly that level, unless the level is
`none`. -/
theorem level_reached_iff (hkind : pass.kind = kind) (htarget : pass.target = .present)
    (hlive : pass.checkOnly = false) (hpatience : pass.patience ≠ 0)
    (hnormal : schema.want params pass.key.partition = .ok want)
    (hgiven : params.get? "level" = some (.text level))
    (hstored : shelf.snapshot.get? pass.key.display = some raw) (hraw : raw.Distinct) :
    ((∃ report, ((pass.reconcile params).run Device.offline shelf).result =
        some (.ok report)) ∧
      ∃ stored, ((pass.reconcile params).run Device.offline shelf).state.snapshot.get?
          pass.key.display = some stored ∧ stored.get? "level" = some (.text level)) ↔
      level ≠ "none" := by
  have hset := isSet_level_iff hnormal hgiven
  constructor
  · rintro ⟨⟨report, hok⟩, -⟩ hnone
    have hunset : want.isSet "level" = false := by
      rw [Bool.eq_false_iff, Ne, hset]
      exact not_not_intro hnone
    have hends := ends_of_refused shelf hkind htarget hnormal hunset
    rw [Run.ends, hok] at hends
    cases hends
  · intro hsome
    obtain ⟨report, after, stored, hends, hafter, hreached⟩ :=
      ends_of_set hkind htarget hlive hpatience hnormal (wanted_of_given hnormal hgiven).1
        (hset.mpr hsome) hstored hraw
    obtain ⟨hresult, rfl⟩ := Prod.mk.inj hends
    exact ⟨⟨report, hresult⟩, stored, hafter, hreached⟩

/-- Asks for a level. -/
def asked (level : String) : Attributes := ⟨[("level", .text level)]⟩

/-- A pass that is to bring a module to a level. -/
def asmPass : Pass where
  kind := kind
  key := ⟨kind.name, "Common", "asm"⟩
  target := .present
  patience := 1

/-- What a device may hold of the entry: something that is not its attribute, and a level
that is no text. -/
def muddled : Attributes :=
  ⟨[("memoryRatio", .int 0), ("level", .list ["nominal"])]⟩

/-- A device that holds that. -/
def muddledShelf : Device.Shelf := ⟨⟨[("sys/provision:/Common/asm", muddled)]⟩, []⟩

/-- A level is reached from there. -/
theorem dedicated_reached :
    (∃ report, ((asmPass.reconcile (asked "dedicated")).run Device.offline muddledShelf).result =
        some (.ok report)) ∧
      ∃ stored, ((asmPass.reconcile (asked "dedicated")).run Device.offline
          muddledShelf).state.snapshot.get? "sys/provision:/Common/asm" = some stored ∧
        stored.get? "level" = some (.text "dedicated") := by
  have hraw : muddled.Distinct := show ["memoryRatio", "level"].Nodup by decide
  exact (level_reached_iff rfl rfl rfl (by decide) rfl rfl rfl hraw).mpr (by decide)

/-- The level `none` is declared, and the schema takes it, but it is refused as if no
level were given. -/
theorem none_not_reached :
    schema.want (asked "none") "Common" = .ok (asked "none") ∧
      ((asmPass.reconcile (asked "none")).run Device.offline muddledShelf).ends =
        (some (.error ⟨false, .validation "level" "'level' must be specified."⟩),
          muddledShelf) :=
  ⟨rfl, rfl⟩

end Provisioning
end Catalog
end DesiredState
