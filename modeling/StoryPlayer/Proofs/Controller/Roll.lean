import Mathlib.Data.List.Nodup
import Mathlib.Data.List.Induction
import StoryPlayer.Controller.Room

/-!
# The roll of the callers with commands

Each caller with a command is sent away, waits, or gets the session, and those who got it are
answered in the same order.

* `Roll.Complete`: nobody is lost, and nobody is there twice.
* `Roll.Next`: what can happen to a caller, and `Roll.Complete.next`: it leaves the roll complete.
-/

namespace StoryPlayer

namespace Request

/-- The requests that are commands, with their callers. -/
def inputs (requests : List Request) : List (CallerId × Command) :=
  requests.zipIdx.filterMap fun
    | (.input command, caller) => some (caller, command)
    | (.load _, _) => none

theorem inputs_concat_load (requests : List Request) (resource : String) :
    inputs (requests ++ [.load resource]) = inputs requests := by
  rw [inputs, List.zipIdx_append, List.filterMap_append]
  exact List.append_nil _

theorem inputs_concat_input (requests : List Request) (command : Command) :
    inputs (requests ++ [.input command]) = inputs requests ++ [(requests.length, command)] := by
  rw [inputs, List.zipIdx_append, List.filterMap_append, Nat.zero_add]
  rfl

/-- No caller is there twice. -/
theorem nodup_inputs (requests : List Request) : ((inputs requests).map Prod.fst).Nodup := by
  have hsublist : ((inputs requests).map Prod.fst).Sublist (List.range requests.length) := by
    induction requests using List.reverseRecOn with
    | nil => exact .slnil
    | append_singleton requests request ih =>
      rw [List.length_append, List.length_singleton, List.range_succ]
      cases request with
      | input command =>
        rw [inputs_concat_input, List.map_append]
        exact ih.append (.refl _)
      | load resource =>
        rw [inputs_concat_load]
        exact ih.trans (List.sublist_append_left _ _)
  exact List.nodup_range.sublist hsublist

theorem mem_inputs {requests : List Request} {p : CallerId × Command} :
    p ∈ inputs requests ↔ requests[p.1]? = some (.input p.2) := by
  rw [inputs, List.mem_filterMap]
  constructor
  · rintro ⟨⟨request, caller⟩, hmem, heq⟩
    have hget := List.mem_zipIdx_iff_getElem?.mp hmem
    cases request with
    | load resource => cases heq
    | input command =>
      cases heq
      exact hget
  · intro hget
    exact ⟨(.input p.2, p.1), List.mem_zipIdx_iff_getElem?.mpr hget, rfl⟩

end Request

/-- The callers with commands, by what has become of them. -/
structure Roll where
  inputs : List (CallerId × Command)
  /-- Those who were sent away, in order. -/
  ignored : List CallerId
  /-- Those who wait for the session. -/
  queue : List (CallerId × Command)
  /-- Those who have obtained the session, in order. -/
  obtained : List (CallerId × Command)
  /-- Those whose commands have been evaluated, in the order of the answers. -/
  evaluated : List CallerId
  /-- The one who holds the session. -/
  holder? : Option CallerId

namespace Roll

structure Complete (r : Roll) : Prop where
  places : (r.ignored ++ r.queue.map Prod.fst ++ r.obtained.map Prod.fst).Perm
    (r.inputs.map Prod.fst)
  own : ∀ p ∈ r.queue ++ r.obtained, p ∈ r.inputs
  answered : r.evaluated ++ r.holder?.toList = r.obtained.map Prod.fst

variable {r : Roll} {p : CallerId × Command}

/-- A caller comes and is sent away. -/
theorem Complete.ignore (h : r.Complete) (p : CallerId × Command) :
    Complete { r with inputs := r.inputs ++ [p], ignored := r.ignored ++ [p.1] } where
  places := by
    have hplaces := h.places.append_right [p.1]
    rw [List.map_append]
    refine List.Perm.trans ?_ hplaces
    rw [List.append_assoc, List.append_assoc, List.append_assoc, List.append_assoc]
    refine .append_left r.ignored ?_
    rw [← List.append_assoc (r.queue.map Prod.fst)]
    exact List.perm_append_comm
  own q hq := List.mem_append_left _ (h.own q hq)
  answered := h.answered

/-- A caller comes and waits. -/
theorem Complete.enqueue (h : r.Complete) (p : CallerId × Command) :
    Complete { r with inputs := r.inputs ++ [p], queue := r.queue ++ [p] } where
  places := by
    have hplaces := h.places.append_right [p.1]
    rw [List.map_append, List.map_append]
    refine List.Perm.trans ?_ hplaces
    simp only [List.append_assoc]
    exact .append_left _ (.append_left _ List.perm_append_comm)
  own q hq := by
    rcases List.mem_append.mp hq with hqueue | hobtained
    · rcases List.mem_append.mp hqueue with hold | hnew
      · exact List.mem_append_left _ (h.own q (List.mem_append_left _ hold))
      · exact List.mem_append_right _ hnew
    · exact List.mem_append_left _ (h.own q (List.mem_append_right _ hobtained))
  answered := h.answered

/-- A caller who waits obtains the session. -/
theorem Complete.obtain (h : r.Complete) (hfree : r.holder? = none) (hp : p ∈ r.queue) :
    Complete { r with
      queue := r.queue.erase p
      obtained := r.obtained ++ [p]
      holder? := some p.1 } where
  places := by
    have hqueue := ((List.perm_cons_erase hp).map Prod.fst).symm
    refine List.Perm.trans ?_ h.places
    rw [List.map_append, List.append_assoc, List.append_assoc]
    refine .append_left r.ignored ?_
    refine List.Perm.trans ?_ (hqueue.append_right (r.obtained.map Prod.fst))
    rw [← List.append_assoc]
    exact List.perm_append_comm
  own q hq := by
    rcases List.mem_append.mp hq with hqueue | hobtained
    · exact h.own q (List.mem_append_left _ (List.mem_of_mem_erase hqueue))
    · rcases List.mem_append.mp hobtained with hold | hnew
      · exact h.own q (List.mem_append_right _ hold)
      · rw [List.mem_singleton.mp hnew]
        exact h.own p (List.mem_append_left _ hp)
  answered := by
    have hall := h.answered
    rw [hfree, Option.toList_none, List.append_nil] at hall
    rw [List.map_append, ← hall]
    rfl

/-- The one who holds the session is answered. -/
theorem Complete.finish (h : r.Complete) {caller : CallerId} (hheld : r.holder? = some caller) :
    Complete { r with evaluated := r.evaluated ++ [caller], holder? := none } where
  places := h.places
  own := h.own
  answered := by
    rw [← h.answered, hheld, Option.toList_none, List.append_nil]
    rfl

/-- What can become of a roll at once. -/
inductive Next (r : Roll) : Roll → Prop
  | stay : Next r r
  | ignore (p : CallerId × Command) :
      Next r { r with inputs := r.inputs ++ [p], ignored := r.ignored ++ [p.1] }
  | enqueue (p : CallerId × Command) :
      Next r { r with inputs := r.inputs ++ [p], queue := r.queue ++ [p] }
  | obtain (p : CallerId × Command) (free : r.holder? = none) (waits : p ∈ r.queue) :
      Next r { r with
        queue := r.queue.erase p
        obtained := r.obtained ++ [p]
        holder? := some p.1 }
  | finish (caller : CallerId) (holds : r.holder? = some caller) :
      Next r { r with evaluated := r.evaluated ++ [caller], holder? := none }

theorem Complete.next (h : r.Complete) {r' : Roll} (hn : Next r r') : r'.Complete := by
  cases hn with
  | stay => exact h
  | ignore p => exact h.ignore p
  | enqueue p => exact h.enqueue p
  | obtain p free waits => exact h.obtain free waits
  | finish caller holds => exact h.finish holds

/-- Whoever has been sent away stays so. -/
theorem Next.prefix_ignored {r' : Roll} (hn : Next r r') : r.ignored <+: r'.ignored := by
  cases hn with
  | ignore p => exact List.prefix_append _ _
  | _ => exact List.prefix_refl _

/-- Whoever has been answered stays so. -/
theorem Next.prefix_evaluated {r' : Roll} (hn : Next r r') : r.evaluated <+: r'.evaluated := by
  cases hn with
  | finish caller => exact List.prefix_append _ _
  | _ => exact List.prefix_refl _

/-- Nobody gets the session twice, or after having been sent away. -/
theorem Complete.nodup (h : r.Complete) {requests : List Request}
    (hr : r.inputs = Request.inputs requests) :
    (r.obtained.map Prod.fst).Nodup ∧ ∀ caller ∈ r.ignored, caller ∉ r.queue.map Prod.fst ∧
      caller ∉ r.obtained.map Prod.fst := by
  have hnodup : (r.ignored ++ r.queue.map Prod.fst ++ r.obtained.map Prod.fst).Nodup := by
    rw [h.places.nodup_iff, hr]
    exact Request.nodup_inputs requests
  refine ⟨hnodup.of_append_right, ?_⟩
  intro caller hcaller
  rw [List.append_assoc] at hnodup
  have hdisjoint := List.disjoint_of_nodup_append hnodup hcaller
  exact ⟨fun hq => hdisjoint (List.mem_append_left _ hq),
    fun ho => hdisjoint (List.mem_append_right _ ho)⟩

/-- Nobody is forgotten. -/
theorem Complete.present (h : r.Complete) {requests : List Request}
    (hr : r.inputs = Request.inputs requests) (hp : p ∈ r.inputs) :
    p.1 ∈ r.ignored ∨ p ∈ r.queue ∨ p ∈ r.obtained := by
  have hown : ∀ q ∈ r.queue ++ r.obtained, q.1 = p.1 → q = p := by
    intro q hq hcaller
    have hinput := h.own q hq
    rw [hr, Request.mem_inputs] at hinput hp
    rw [hcaller, hp] at hinput
    have hcommand : p.2 = q.2 := Request.input.inj (Option.some.inj hinput)
    exact Prod.ext hcaller hcommand.symm
  have hmem := h.places.symm.subset (List.mem_map_of_mem hp)
  rcases List.mem_append.mp hmem with hmem | hobtained
  · rcases List.mem_append.mp hmem with hignored | hqueue
    · exact .inl hignored
    · obtain ⟨q, hq, hcaller⟩ := List.mem_map.mp hqueue
      exact .inr (.inl (hown q (List.mem_append_left _ hq) hcaller ▸ hq))
  · obtain ⟨q, hq, hcaller⟩ := List.mem_map.mp hobtained
    exact .inr (.inr (hown q (List.mem_append_right _ hq) hcaller ▸ hq))

end Roll

end StoryPlayer
