import Mathlib.Data.List.Perm.Basic
import Mathlib.Data.List.Nodup

/-!
# A ledger of resources

Resources with distinct keys are created and released.  Each live one either
has an owner, who is going to release it, or is leaked.
-/

namespace ResourceLedger

variable {Resource Key : Type*}

/-- Every live resource is owned or leaked, and no two have the same key. -/
structure Accounted (key : Resource → Key) (live owned leaked : List Resource) :
    Prop where
  split : live.Perm (owned ++ leaked)
  distinct : (live.map key).Nodup

/-- What is live after the resource with a key has been released. -/
def release [DecidableEq Key] (key : Resource → Key) (released : Key)
    (live : List Resource) : List Resource :=
  live.filter fun resource => key resource ≠ released

variable {key : Resource → Key} {live owned leaked : List Resource}
  {resource : Resource}

namespace Accounted

theorem nil : Accounted key [] [] [] :=
  ⟨.nil, .nil⟩

theorem length (accounted : Accounted key live owned leaked) :
    live.length = owned.length + leaked.length := by
  rw [accounted.split.length_eq, List.length_append]

theorem congr {owned' : List Resource}
    (accounted : Accounted key live owned leaked) (same : owned.Perm owned') :
    Accounted key live owned' leaked :=
  ⟨accounted.split.trans (same.append_right leaked), accounted.distinct⟩

/-- A new resource with an owner. -/
theorem create (accounted : Accounted key live owned leaked)
    (fresh : key resource ∉ live.map key) :
    Accounted key (resource :: live) (resource :: owned) leaked := by
  constructor
  · exact accounted.split.cons resource
  · rw [List.map_cons, List.nodup_cons]
    exact ⟨fresh, accounted.distinct⟩

/-- A new resource without an owner. -/
theorem lose (accounted : Accounted key live owned leaked)
    (fresh : key resource ∉ live.map key) :
    Accounted key (resource :: live) owned (resource :: leaked) := by
  constructor
  · exact (accounted.split.cons resource).trans List.perm_middle.symm
  · rw [List.map_cons, List.nodup_cons]
    exact ⟨fresh, accounted.distinct⟩

end Accounted

section Release

variable [DecidableEq Key]

theorem release_of_fresh {released : Key} (fresh : released ∉ live.map key) :
    release key released live = live := by
  rw [release, List.filter_eq_self]
  intro resource member
  have other : key resource ≠ released := by
    rintro rfl
    exact fresh (List.mem_map_of_mem member)
  simp [other]

/-- Releasing what has just been created. -/
theorem release_cons (fresh : key resource ∉ live.map key) :
    release key (key resource) (resource :: live) = live := by
  rw [release, List.filter_cons_of_neg (by simp)]
  exact release_of_fresh fresh

namespace Accounted

/-- An owner releases its resource. -/
theorem release
    (accounted : Accounted key live (resource :: owned) leaked) :
    Accounted key (release key (key resource) live) owned leaked := by
  have others : key resource ∉ (owned ++ leaked).map key := by
    have distinct := (accounted.split.map key).nodup_iff.mp accounted.distinct
    exact (List.nodup_cons.mp distinct).1
  constructor
  · have split := accounted.split.filter fun other =>
      key other ≠ key resource
    exact split.trans (.of_eq (release_cons others))
  · exact accounted.distinct.sublist (List.filter_sublist.map key)

/-- An owner exchanges its resource for a new one. -/
theorem swap {next : Resource}
    (accounted : Accounted key live (resource :: owned) leaked)
    (fresh : key next ∉ live.map key) :
    Accounted key
      (ResourceLedger.release key (key resource) (next :: live))
      (next :: owned) leaked :=
  ((accounted.create fresh).congr (.swap resource next owned)).release

end Accounted

end Release

end ResourceLedger
