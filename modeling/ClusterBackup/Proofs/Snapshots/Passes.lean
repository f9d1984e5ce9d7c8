import ClusterBackup.Proofs.Session.Alone
import ClusterBackup.Proofs.Session.Complete
import Mathlib.Data.List.Dedup

/-! The reports of two passes over the claims of a workload.

In the first pass every claim is begun or fails at once. In the second one those that were begun come
to their end. What remains of a claim is the first report of its end. -/

set_option autoImplicit false

namespace ClusterBackup.Snapshots

open Hosts

/-- The reports of both passes over the claims. -/
structure Passes (claims : List String) (begun ended : List HostEntry) : Prop where
  first : begun.map (·.host) = claims
  second : ended.map (·.host) = (begun.filter (·.phase == .running)).map (·.host)
  begins : ∀ e ∈ begun, e.phase = .running ∨ e.phase = .failed
  ends : ∀ e ∈ ended, e.phase = .succeeded ∨ e.phase = .failed

variable {claims : List String} {begun ended : List HostEntry} {e r : HostEntry}

theorem eq_of_count_le_one {entries : List HostEntry} {host : String}
    (once : (entries.map (·.host)).count host ≤ 1) (left : e ∈ entries) (right : r ∈ entries)
    (here : e.host = host) (there : r.host = host) : e = r := by
  have few : (entries.filter (·.host == host)).length ≤ 1 := by
    rw [List.count, List.countP_map] at once
    rwa [← List.countP_eq_length_filter]
  have first : e ∈ entries.filter (·.host == host) := List.mem_filter.mpr ⟨left, beq_iff_eq.mpr here⟩
  have second : r ∈ entries.filter (·.host == host) := List.mem_filter.mpr ⟨right, beq_iff_eq.mpr there⟩
  obtain ⟨only, same⟩ := List.length_eq_one_iff.mp (Nat.le_antisymm few (List.length_pos_of_mem first))
  rw [same, List.mem_singleton] at first second
  exact first.trans second.symm

namespace Passes

variable (passes : Passes claims begun ended)

include passes

theorem running_of_ended (member : r ∈ ended) : ∃ b ∈ begun, b.host = r.host ∧ b.phase = .running := by
  have host : r.host ∈ ended.map (·.host) := List.mem_map_of_mem member
  rw [passes.second] at host
  obtain ⟨b, kept, same⟩ := List.mem_map.mp host
  obtain ⟨present, running⟩ := List.mem_filter.mp kept
  exact ⟨b, present, same, beq_iff_eq.mp running⟩

theorem ended_of_running (member : r ∈ begun) (running : r.phase = .running) :
    ∃ e ∈ ended, e.host = r.host := by
  have host : r.host ∈ (begun.filter (·.phase == .running)).map (·.host) :=
    List.mem_map.mpr ⟨r, List.mem_filter.mpr ⟨member, beq_iff_eq.mpr running⟩, rfl⟩
  rw [← passes.second] at host
  exact List.mem_map.mp host

theorem host_mem_iff (host : String) :
    host ∈ (heard (begun ++ ended)).map (·.host) ↔ host ∈ claims := by
  rw [host_mem_heard, List.map_append, List.mem_append, passes.first]
  refine or_iff_left_of_imp fun second => ?_
  rw [passes.second] at second
  rw [← passes.first]
  exact (List.filter_sublist.map _).subset second

theorem perm_dedup : ((heard (begun ++ ended)).map (·.host)).Perm claims.dedup := by
  refine (List.perm_ext_iff_of_nodup (nodup_heard _) (List.nodup_dedup _)).mpr fun host => ?_
  rw [passes.host_mem_iff, List.mem_dedup]

theorem failed_of_begun (member : r ∈ begun) (ended : r.phase.isTerminal = true) :
    r.phase = .failed := by
  rcases passes.begins r member with running | failed
  · rw [running] at ended
    cases ended
  · exact failed

theorem isTerminal_of_ended (member : r ∈ ended) : r.phase.isTerminal = true := by
  rcases passes.ends r member with succeeded | failed
  · rw [succeeded]
    rfl
  · rw [failed]
    rfl

theorem firstEnd?_eq (member : e ∈ heard (begun ++ ended)) :
    firstEnd? (begun ++ ended) e.host = some e := by
  refine firstEnd?_of_mem_heard member ?_
  have named := (passes.host_mem_iff e.host).mp (List.mem_map_of_mem member)
  rw [← passes.first] at named
  obtain ⟨b, present, same⟩ := List.mem_map.mp named
  rcases passes.begins b present with running | failed
  · obtain ⟨r, reported, host⟩ := passes.ended_of_running present running
    exact ⟨r, List.mem_append_right _ reported, host.trans same, passes.isTerminal_of_ended reported⟩
  · exact ⟨b, List.mem_append_left _ present, same, by rw [failed]; rfl⟩

theorem isTerminal_of_mem (member : e ∈ heard (begun ++ ended)) : e.phase.isTerminal = true :=
  (firstEnd?_eq_some (passes.firstEnd?_eq member)).2.2

theorem failed_of_refused (member : e ∈ heard (begun ++ ended)) (refused : r ∈ begun)
    (same : r.host = e.host) (failed : r.phase = .failed) : e.phase = .failed := by
  have first := passes.firstEnd?_eq member
  rw [firstEnd?, List.find?_append] at first
  rcases Option.or_eq_some_iff.mp first with here | ⟨none, _⟩
  · obtain ⟨reported, _, ended⟩ := firstEnd?_eq_some here
    exact passes.failed_of_begun reported ended
  · have going := firstEnd?_eq_none_iff.mp none r refused same
    rw [failed] at going
    cases going

theorem mem_ended_of_succeeded (member : e ∈ heard (begun ++ ended)) (succeeded : e.phase = .succeeded) :
    e ∈ ended := by
  rcases List.mem_append.mp (mem_of_mem_heard member) with begun | ended
  · rcases passes.begins e begun with other | other <;> cases succeeded.symm.trans other
  · exact ended

theorem eq_of_once (once : claims.count e.host ≤ 1) (member : e ∈ heard (begun ++ ended))
    (waited : r ∈ ended) (same : r.host = e.host) : e = r := by
  obtain ⟨b, present, host, running⟩ := passes.running_of_ended waited
  have late : (ended.map (·.host)).count e.host ≤ 1 := by
    rw [passes.second]
    rw [← passes.first] at once
    exact Nat.le_trans ((List.filter_sublist.map _).count_le _) once
  rcases List.mem_append.mp (mem_of_mem_heard member) with early | last
  · -- The claim was reported once at first, and that it runs is not its end.
    rw [← passes.first] at once
    obtain rfl := eq_of_count_le_one once early present rfl (host.trans same)
    have terminal := passes.isTerminal_of_mem member
    rw [running] at terminal
    cases terminal
  · exact eq_of_count_le_one late last waited rfl same

theorem exists_entry (named : r.host ∈ claims) : ∃ e ∈ heard (begun ++ ended), e.host = r.host :=
  List.mem_map.mp ((passes.host_mem_iff r.host).mpr named)

theorem host_mem_of_begun (member : r ∈ begun) : r.host ∈ claims :=
  passes.first ▸ List.mem_map_of_mem member

theorem length_le_iff : claims.length ≤ (ended.filter (·.phase == .succeeded)).length ↔
    (∀ b ∈ begun, b.phase = .running) ∧ ∀ r ∈ ended, r.phase = .succeeded := by
  have first : begun.length = claims.length := by simpa using congrArg List.length passes.first
  have second : ended.length = (begun.filter (·.phase == .running)).length := by
    simpa using congrArg List.length passes.second
  have started : (begun.filter (·.phase == .running)).length ≤ begun.length :=
    List.length_filter_le _ _
  have finished : (ended.filter (·.phase == .succeeded)).length ≤ ended.length :=
    List.length_filter_le _ _
  have running := List.length_filter_eq_length_iff (l := begun) (p := (·.phase == .running))
  have succeeded := List.length_filter_eq_length_iff (l := ended) (p := (·.phase == .succeeded))
  simp only [beq_iff_eq] at running succeeded
  rw [← running, ← succeeded]
  omega

theorem succeeded_of_length_le
    (full : claims.length ≤ (ended.filter (·.phase == .succeeded)).length)
    (member : e ∈ heard (begun ++ ended)) : e.phase = .succeeded := by
  obtain ⟨running, succeeded⟩ := passes.length_le_iff.mp full
  rcases List.mem_append.mp (mem_of_mem_heard member) with early | last
  · have terminal := passes.isTerminal_of_mem member
    rw [running e early] at terminal
    cases terminal
  · exact succeeded e last

theorem exists_failed_of_lt (distinct : claims.Nodup)
    (short : (ended.filter (·.phase == .succeeded)).length < claims.length) :
    ∃ e ∈ heard (begun ++ ended), e.phase = .failed := by
  have either : (∃ b ∈ begun, b.phase ≠ .running) ∨ ∃ r ∈ ended, r.phase ≠ .succeeded := by
    by_contra neither
    simp only [not_or, not_exists, not_and, not_not] at neither
    exact absurd (passes.length_le_iff.mpr neither) (Nat.not_le.mpr short)
  rcases either with ⟨b, present, refused⟩ | ⟨r, present, late⟩
  · obtain ⟨e, member, same⟩ := passes.exists_entry (passes.host_mem_of_begun present)
    have failed := (passes.begins b present).resolve_left refused
    exact ⟨e, member, passes.failed_of_refused member present same.symm failed⟩
  · obtain ⟨b, begins, host, _⟩ := passes.running_of_ended present
    obtain ⟨e, member, same⟩ := passes.exists_entry (host ▸ passes.host_mem_of_begun begins)
    have once := List.nodup_iff_count_le_one.mp distinct e.host
    obtain rfl := passes.eq_of_once once member present same.symm
    exact ⟨e, member, (passes.ends e present).resolve_left late⟩

theorem length_heard : (heard (begun ++ ended)).length = claims.dedup.length := by
  simpa using passes.perm_dedup.length_eq

/-- The phase of a session that waits for no more hosts than there are claims. -/
theorem phase_of_nodup (distinct : claims.Nodup) (some : claims ≠ []) {expected : Option Nat}
    (enough : ∀ n ∈ expected, n ≤ claims.length) :
    phase (heard (begun ++ ended)) expected =
      if (ended.filter (·.phase == .succeeded)).length < claims.length then .failed
      else .succeeded := by
  have length : (heard (begun ++ ended)).length = claims.length := by
    rw [passes.length_heard, distinct.dedup]
  have terminal : (phase (heard (begun ++ ended)) expected).isTerminal = true := by
    refine (isTerminal_phase_iff _ _).mpr ⟨fun none => some ?_, fun e => passes.isTerminal_of_mem, ?_⟩
    · rw [none] at length
      exact List.length_eq_zero_iff.mp length.symm
    · rwa [length]
  split
  · rename_i short
    obtain ⟨e, member, failed⟩ := passes.exists_failed_of_lt distinct short
    have any : (heard (begun ++ ended)).any (·.phase == .failed) = true :=
      List.any_eq_true.mpr ⟨e, member, beq_iff_eq.mpr failed⟩
    rw [phase_of_ended terminal, if_pos any]
  · rename_i full
    exact (phase_eq_succeeded_iff _ _).mpr
      ⟨terminal, fun e => passes.succeeded_of_length_le (Nat.not_lt.mp full)⟩

theorem phase_of_repeated (repeated : ¬ claims.Nodup) :
    phase (heard (begun ++ ended)) (some claims.length) = .running := by
  have fewer : claims.dedup.length < claims.length := by
    refine lt_of_le_of_ne (List.dedup_sublist claims).length_le fun same => repeated ?_
    exact List.dedup_eq_self.mp ((List.dedup_sublist claims).eq_of_length same)
  have some : claims ≠ [] := by
    rintro rfl
    exact repeated List.nodup_nil
  have present : ¬ (heard (begun ++ ended)).isEmpty = true := by
    intro empty
    have none : claims.dedup.length = 0 := by
      rw [← passes.length_heard, List.isEmpty_iff.mp empty, List.length_nil]
    exact some ((List.dedup_eq_nil claims).mp (List.length_eq_zero_iff.mp none))
  have seen : ¬ (heard (begun ++ ended)).any (·.phase == .unknown) = true := by
    intro lost
    obtain ⟨e, member, unknown⟩ := List.any_eq_true.mp lost
    have terminal := passes.isTerminal_of_mem member
    rw [beq_iff_eq.mp unknown] at terminal
    cases terminal
  rw [phase, if_neg present, if_neg seen, if_neg]
  simp [passes.length_heard, Nat.not_le.mpr fewer]

end Passes

end ClusterBackup.Snapshots
