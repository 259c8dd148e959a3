import DesiredState.Proofs.Pass.Termination
import DesiredState.Proofs.Text

/-!
# Issued ids

The offline device answers a submitted job with an id: the name of the job, a
dash and a number, which is one more than the ids issued before.  Names of jobs
are free, and may themselves end in a dash and digits; but a number has no dash
in it, so it is what stands behind the last dash of an id, and it tells ids
apart as long as every submission adds to the issued ids.  That it does so
follows in turn from the next id being a new one.

* `Shelf.Numbered` — the issued ids end in their positions;
* `Numbered.nextId_not_mem` — the next id is then a new one;
* `Numbered.after` — requests of any kind add the ids that they are
  answered with, in order, and take none away;
* `issued_distinct_and_pollable` — a device that starts without jobs issues
  every id once, and can be polled by each of them ever after.
-/

namespace DesiredState

/-- The id that a call is answered with, if it submits a job. -/
def Call.issued? : Call → Option String
  | ⟨.submit _ _ _, .ok id⟩ => some id
  | _ => none

namespace Device

/-- The calls that some requests make of a device, one after the other. -/
def calls {σ : Type} (device : Device σ) : List Request → σ → List Call
  | [], _ => []
  | request :: rest, state =>
      ⟨request, (device.answer request state).1⟩ ::
        device.calls rest (device.answer request state).2

/-- The ids that a device issues for some requests, in order. -/
def issuedIds {σ : Type} (device : Device σ) (requests : List Request) (state : σ) :
    List String :=
  (device.calls requests state).filterMap Call.issued?

theorem issuedIds_cons {σ : Type} (device : Device σ) (request : Request)
    (rest : List Request) (state : σ) :
    device.issuedIds (request :: rest) state =
      (Call.issued? ⟨request, (device.answer request state).1⟩).toList ++
        device.issuedIds rest (device.answer request state).2 := by
  rw [issuedIds, calls, List.filterMap_cons]
  cases Call.issued? ⟨request, (device.answer request state).1⟩ with
  | none => rfl
  | some id => rfl

/-! ## Numbers behind the last dash -/

/-- Behind the last dash of an id stands its number. -/
theorem cutLastChars_id (name : String) (number : Nat) :
    Text.cutLastChars '-' (name ++ "-" ++ toString number).toList =
      some (name.toList, Nat.toDigits 10 number) := by
  have hid : (name ++ "-" ++ toString number).toList =
      name.toList ++ '-' :: Nat.toDigits 10 number := by
    simp [String.toList_append, Nat.toList_repr]
  rw [hid]
  exact Text.cutLastChars_append_cons (Text.not_mem_toDigits rfl number) name.toList

/-- Ids with different numbers are different, whatever names they are made of. -/
theorem number_eq_of_id_eq {first second : String} {m n : Nat}
    (h : first ++ "-" ++ toString m = second ++ "-" ++ toString n) : m = n := by
  have hcut := cutLastChars_id first m
  rw [h, cutLastChars_id second n, Option.some.injEq, Prod.mk.injEq] at hcut
  have hread : Text.natural? (Nat.toDigits 10 n) = Text.natural? (Nat.toDigits 10 m) :=
    congrArg Text.natural? hcut.2
  rw [Text.natural?_toDigits, Text.natural?_toDigits] at hread
  exact (Option.some.inj hread).symm

namespace Shelf

variable {shelf : Shelf} {request : Request} {requests : List Request}

/-! ## Numbered ids -/

/-- Every issued id ends in a dash and its position, counted from one. -/
def Numbered (shelf : Shelf) : Prop :=
  ∀ position id, shelf.issued[position]? = some id →
    ∃ name, id = name ++ "-" ++ toString (position + 1)

/-- Of ids that end in their positions none is issued twice. -/
theorem Numbered.nodup (h : shelf.Numbered) : shelf.issued.Nodup := by
  refine List.pairwise_iff_getElem.mpr fun i j hi hj hlt heq => ?_
  obtain ⟨first, hfirst⟩ := h i _ (List.getElem?_eq_getElem hi)
  obtain ⟨second, hsecond⟩ := h j _ (List.getElem?_eq_getElem hj)
  have hnumber := number_eq_of_id_eq (hfirst.symm.trans (heq.trans hsecond))
  omega

/-- The next id is none of those that end in an earlier position. -/
theorem Numbered.nextId_not_mem (h : shelf.Numbered) (job : Job) :
    shelf.nextId job ∉ shelf.issued := by
  intro hmem
  obtain ⟨position, hposition, hid⟩ := List.getElem_of_mem hmem
  obtain ⟨name, hname⟩ := h position _ (List.getElem?_eq_getElem hposition)
  have hnumber := number_eq_of_id_eq (hname.symm.trans hid)
  omega

/-! ## One request -/

/-- A submission is answered with the next id, and nothing else is answered with
an id. -/
theorem issued?_answer (request : Request) (shelf : Shelf) :
    Call.issued? ⟨request, (answer request shelf).1⟩ =
      match request with
      | .submit job _ _ => some (shelf.nextId job)
      | _ => none := by
  cases request <;> rfl

/-- The id that a request is answered with is added to those that are issued. -/
theorem Numbered.issued_answer (h : shelf.Numbered) (request : Request) :
    (answer request shelf).2.issued =
      shelf.issued ++ (Call.issued? ⟨request, (answer request shelf).1⟩).toList := by
  rw [issued?_answer]
  cases request with
  | submit job key payload => simp [answer, h.nextId_not_mem job]
  | lookUp key => simp [answer]
  | read key | create key _ | update key _ | delete key | poll job id =>
      simp only [answer]
      split
      · exact (List.append_nil _).symm
      · exact (List.append_nil _).symm

/-- Issued ids go on ending in their positions. -/
theorem Numbered.answer (h : shelf.Numbered) (request : Request) :
    (answer request shelf).2.Numbered := by
  intro position id hid
  rw [h.issued_answer, issued?_answer, List.getElem?_append] at hid
  split at hid
  · exact h position id hid
  · -- the only id behind the earlier ones is the next one
    rename_i hlast
    cases request with
    | submit job key payload =>
        obtain ⟨hposition, rfl⟩ : position - shelf.issued.length = 0 ∧ shelf.nextId job = id := by
          simpa [List.getElem?_singleton] using hid
        have hlength : position = shelf.issued.length := by omega
        exact ⟨job.name, by rw [hlength, nextId]⟩
    | _ => simp at hid

/-! ## Many requests -/

/-- The device numbers ids throughout, and keeps the ids that it issues. -/
theorem Numbered.after (h : shelf.Numbered) (requests : List Request) :
    (offline.after requests shelf).Numbered ∧
      (offline.after requests shelf).issued =
        shelf.issued ++ offline.issuedIds requests shelf := by
  induction requests generalizing shelf with
  | nil => exact ⟨h, (List.append_nil _).symm⟩
  | cons request rest ih =>
      obtain ⟨hnumbered, hissued⟩ := ih (h.answer request)
      refine ⟨hnumbered, hissued.trans ?_⟩
      rw [h.issued_answer, List.append_assoc, issuedIds_cons]
      rfl

/-- Every submission is answered with an id. -/
theorem length_issuedIds (requests : List Request) (shelf : Shelf) :
    (offline.issuedIds requests shelf).length =
      requests.countP fun request => request.sort == .submit := by
  induction requests generalizing shelf with
  | nil => rfl
  | cons request rest ih =>
      have hanswered : (Call.issued? ⟨request, (offline.answer request shelf).1⟩).toList.length =
          if request.sort == .submit then 1 else 0 := by
        rw [show offline.answer request shelf = Shelf.answer request shelf from rfl,
          issued?_answer]
        cases request <;> rfl
      rw [issuedIds_cons, List.length_append, hanswered, ih, List.countP_cons, Nat.add_comm]

end Shelf

/-- A device that starts without jobs answers every submission with an id of its
own, and a poll by such an id never fails, whatever was asked meanwhile. -/
theorem issued_distinct_and_pollable (snapshot : Snapshot) (requests : List Request) :
    (offline.issuedIds requests ⟨snapshot, []⟩).Nodup ∧
      (offline.issuedIds requests ⟨snapshot, []⟩).length =
        requests.countP (fun request => request.sort == .submit) ∧
      ∀ id ∈ offline.issuedIds requests ⟨snapshot, []⟩, ∀ job, ∃ observation,
        (offline.answer (.poll job id) (offline.after requests ⟨snapshot, []⟩)).1 =
          .ok observation := by
  have hstart : Shelf.Numbered ⟨snapshot, []⟩ := fun position id hid => by simp at hid
  obtain ⟨hnumbered, hissued⟩ := hstart.after requests
  rw [List.nil_append] at hissued
  refine ⟨hissued ▸ hnumbered.nodup, Shelf.length_issuedIds requests _, fun id hid job => ?_⟩
  have hknown : (offline.after requests ⟨snapshot, []⟩).knows id = true := by
    rw [← hissued] at hid
    simp [Shelf.knows, hid]
  exact ⟨_, congrArg Prod.fst (Shelf.answer_poll hknown job)⟩

/-- Jobs whose names end in a dash and a number, or start with a slash. -/
def similarJobs : List Request := [
  .submit (.custom "sync-1") ⟨"sys/db", "Common", "one"⟩ .empty,
  .submit (.custom "sync") ⟨"sys/db", "Common", "one"⟩ .empty,
  .poll (.custom "sync") "sync-2",
  .submit (.custom "sync-1") ⟨"sys/db", "Common", "two"⟩ .empty,
  .submit (.custom "/sync-") ⟨"sys/db", "Common", "two"⟩ .empty]

/-- Similar jobs have ids of their own, and the first one can be polled after
all of them. -/
theorem similarJobs_issued :
    offline.issuedIds similarJobs ⟨.empty, []⟩ = ["sync-1-1", "sync-2", "sync-1-3", "/sync--4"] ∧
      ["sync-1-1", "sync-2", "sync-1-3", "/sync--4"].Nodup ∧
      ∃ observation,
        (offline.answer (.poll (.custom "sync-1") "sync-1-1")
          (offline.after similarJobs ⟨.empty, []⟩)).1 = .ok observation := by
  have hids : offline.issuedIds similarJobs ⟨.empty, []⟩ =
      ["sync-1-1", "sync-2", "sync-1-3", "/sync--4"] := by decide +kernel
  obtain ⟨hdistinct, -, hpolled⟩ := issued_distinct_and_pollable .empty similarJobs
  rw [hids] at hdistinct hpolled
  exact ⟨hids, hdistinct, hpolled "sync-1-1" List.mem_cons_self (.custom "sync-1")⟩

end Device
end DesiredState
