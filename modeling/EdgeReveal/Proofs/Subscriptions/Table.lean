import EdgeReveal.Subscriptions.Basic
import Mathlib.Data.List.Nodup

/-!
# The table of subscriptions

Every id in the table has been given out, and none is there twice. From this alone follows what an
insertion and a removal change: one entry, and no other.
-/
namespace EdgeReveal

variable {η : Type}

theorem Subscription.wants_iff (s : Subscription η) (name : String) :
    s.wants name = true ↔ name ∈ s.events ∨ "*" ∈ s.events := by
  simp only [wants, List.any_eq_true, Bool.or_eq_true, beq_iff_eq]
  constructor
  · rintro ⟨event, listed, rfl | rfl⟩
    · exact .inl listed
    · exact .inr listed
  · rintro (listed | listed)
    · exact ⟨name, listed, .inl rfl⟩
    · exact ⟨"*", listed, .inr rfl⟩

namespace Subscriptions

variable {t : Subscriptions η} {s : Subscription η}

/-- What holds of every table that came about by insertions and removals. -/
structure Sound (t : Subscriptions η) : Prop where
  given : ∀ s ∈ t.entries, s.id < t.nextId
  distinct : (t.entries.map (·.id)).Nodup

theorem sound_empty : Sound ({} : Subscriptions η) where
  given := by simp
  distinct := .nil

theorem Sound.eq_of_id (sound : t.Sound) {s' : Subscription η} (within : s ∈ t.entries)
    (within' : s' ∈ t.entries) (same : s.id = s'.id) : s = s' :=
  List.inj_on_of_nodup_map sound.distinct within within' same

theorem Sound.filter_id (sound : t.Sound) (within : s ∈ t.entries) :
    t.entries.filter (·.id = s.id) = [s] := by
  refine List.perm_singleton.mp ?_
  rw [List.perm_ext_iff_of_nodup (sound.distinct.of_map.filter _) (List.nodup_singleton s)]
  intro s'
  rw [List.mem_filter, decide_eq_true_iff, List.mem_singleton]
  constructor
  · rintro ⟨within', same⟩
    exact sound.eq_of_id within' within same
  · rintro rfl
    exact ⟨within, rfl⟩

/-! ### Insertion -/

theorem entries_insert (t : Subscriptions η) (events : List String) (handler : η) :
    (t.insert events handler).2.entries = t.entries ++ [⟨t.nextId, events, handler⟩] := rfl

theorem mem_insert {events : List String} {handler : η} :
    s ∈ (t.insert events handler).2.entries ↔
      s ∈ t.entries ∨ s = ⟨t.nextId, events, handler⟩ := by
  rw [entries_insert, List.mem_append, List.mem_singleton]

theorem Sound.insert (sound : t.Sound) (events : List String) (handler : η) :
    (t.insert events handler).2.Sound where
  given s within := by
    rcases mem_insert.mp within with old | rfl
    · exact Nat.lt_succ_of_lt (sound.given s old)
    · exact Nat.lt_succ_self _
  distinct := by
    rw [entries_insert, List.map_append, List.nodup_append']
    refine ⟨sound.distinct, List.nodup_singleton _, ?_⟩
    simp only [List.map_cons, List.map_nil, List.disjoint_singleton]
    intro among
    obtain ⟨s, within, same⟩ := List.mem_map.mp among
    exact Nat.ne_of_lt (sound.given s within) same

/-! ### Removal -/

theorem mem_remove {id : Nat} : s ∈ (t.remove id).2.entries ↔ s ∈ t.entries ∧ s.id ≠ id := by
  simp [remove]

theorem removed_iff (t : Subscriptions η) (id : Nat) :
    (t.remove id).1 = true ↔ ∃ s ∈ t.entries, s.id = id := by
  simp [remove]

theorem Sound.remove (sound : t.Sound) (id : Nat) : (t.remove id).2.Sound where
  given s within := sound.given s (mem_remove.mp within).1
  distinct := sound.distinct.sublist (List.filter_sublist.map _)

/-- Nothing but the one entry with the id is taken out. -/
theorem Sound.entries_remove (sound : t.Sound) {front back : List (Subscription η)}
    (split : t.entries = front ++ s :: back) : (t.remove s.id).2.entries = front ++ back := by
  have distinct := sound.distinct
  rw [split, List.map_append, List.map_cons, List.nodup_middle, List.nodup_cons,
    ← List.map_append] at distinct
  have others : ∀ s' ∈ front ++ back, (s'.id != s.id) = true := by
    intro s' within
    rw [bne_iff_ne]
    exact fun same => distinct.1 (List.mem_map.mpr ⟨s', within, same⟩)
  have kept : (front ++ back).filter (·.id != s.id) = front ++ back :=
    List.filter_eq_self.mpr others
  rw [List.filter_append] at kept
  simp only [Subscriptions.remove, split, List.filter_append, List.filter_cons, bne_self_eq_false,
    Bool.false_eq_true, ite_false, kept]

/-- An insertion that is taken back leaves the entries as they were. -/
theorem Sound.entries_remove_insert (sound : t.Sound) (events : List String) (handler : η) :
    ((t.insert events handler).2.remove t.nextId).2.entries = t.entries := by
  have last := (sound.insert events handler).entries_remove (entries_insert t events handler)
  rwa [List.append_nil] at last

/-! ### Recipients -/

theorem mem_recipients {event : Event} :
    s ∈ t.recipients event ↔
      s ∈ t.entries ∧ (event.name ∈ s.events ∨ "*" ∈ s.events) := by
  rw [recipients, List.mem_filter, s.wants_iff]

theorem Sound.nodup_recipients (sound : t.Sound) (event : Event) :
    ((t.recipients event).map (·.id)).Nodup :=
  sound.distinct.sublist (List.filter_sublist.map _)

end Subscriptions

end EdgeReveal
