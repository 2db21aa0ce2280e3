import CallNotice.Notification.Journal
import CallNotice.Proofs.Notification.Board
import Mathlib.Data.List.Induction

namespace CallNotice.NotificationJournal

variable {records : List NotificationRecord} {r : NotificationRecord}

def IsComplete (r : NotificationRecord) : Prop := r.kind = .notify → r.notification.isSome = true

instance (r : NotificationRecord) : Decidable (IsComplete r) :=
  inferInstanceAs (Decidable (_ → _))

def lastOf (id : Int32) (records : List NotificationRecord) : Option NotificationRecord :=
  records.reverse.find? fun r => r.id = id

/-- The last record of the id is a post without a notification. -/
def EndsHollow (records : List NotificationRecord) (id : Int32) : Prop :=
  ∃ r ∈ lastOf id records, ¬IsComplete r

instance (records : List NotificationRecord) (id : Int32) : Decidable (EndsHollow records id) :=
  inferInstanceAs (Decidable (∃ r ∈ lastOf id records, ¬IsComplete r))

def posted? (r : NotificationRecord) : Option Notification :=
  match r.kind with
  | .notify => r.notification
  | .cancel => none

theorem posted?_eq_none (h : ¬IsComplete r) : posted? r = none := by
  obtain ⟨hkind, hnone⟩ := Classical.not_imp.mp h
  rw [posted?, hkind]
  exact Option.not_isSome_iff_eq_none.mp hnone

theorem lastOf_concat (id : Int32) (records : List NotificationRecord) (r : NotificationRecord) :
    lastOf id (records ++ [r]) = if r.id = id then some r else lastOf id records := by
  rw [lastOf, List.reverse_concat, List.find?_cons]
  by_cases h : r.id = id
  · simp only [h, decide_true, if_true]
  · simp only [h, decide_false, if_false, lastOf]

theorem mem_of_lastOf {id : Int32} (h : lastOf id records = some r) : r ∈ records :=
  List.mem_reverse.mp (List.mem_of_find?_eq_some h)

theorem latest_concat (records : List NotificationRecord) (r : NotificationRecord) :
    (records ++ [r]).foldl keepLatest .empty =
      keepLatest (records.foldl keepLatest .empty) r := by
  rw [List.foldl_append]
  rfl

theorem activeOf_concat (records : List NotificationRecord) (r : NotificationRecord) :
    activeOf (records ++ [r]) = replay (activeOf records) r := by
  rw [activeOf, List.foldl_append]
  rfl

theorem isSorted_latest (records : List NotificationRecord) :
    (records.foldl keepLatest .empty).IsSorted := by
  induction records using List.reverseRecOn with
  | nil => exact List.Pairwise.nil
  | append_singleton records r ih =>
    rw [latest_concat]
    unfold keepLatest
    cases r.kind with
    | notify => exact Board.isSorted_insert ih
    | cancel => exact Board.isSorted_erase ih

theorem isSorted_replay {board : Board Notification} (h : board.IsSorted)
    (r : NotificationRecord) : (replay board r).IsSorted := by
  unfold replay
  split
  · exact Board.isSorted_insert h
  · exact h
  · exact Board.isSorted_erase h

theorem isSorted_activeOf (records : List NotificationRecord) : (activeOf records).IsSorted := by
  induction records using List.reverseRecOn with
  | nil => exact List.Pairwise.nil
  | append_singleton records r ih =>
    rw [activeOf_concat]
    exact isSorted_replay ih r

theorem get?_latest (id : Int32) (records : List NotificationRecord) :
    Board.get? id (records.foldl keepLatest .empty) =
      (lastOf id records).filter fun r => r.kind = .notify := by
  induction records using List.reverseRecOn with
  | nil => rfl
  | append_singleton records r ih =>
    rw [latest_concat, lastOf_concat, keepLatest]
    by_cases h : r.id = id
    · cases hkind : r.kind with
      | notify => simp [Board.get?_insert, h, hkind, Option.filter]
      | cancel => simp [Board.get?_erase, h, hkind, Option.filter]
    · cases hkind : r.kind with
      | notify => simp [Board.get?_insert, h, Ne.symm h, ih]
      | cancel => simp [Board.get?_erase, h, Ne.symm h, ih]

theorem get?_activeOf {id : Int32} (h : ¬EndsHollow records id) :
    (activeOf records).get? id = (lastOf id records).bind posted? := by
  induction records using List.reverseRecOn with
  | nil => rfl
  | append_singleton records r ih =>
    rw [activeOf_concat, lastOf_concat, replay]
    rw [EndsHollow, lastOf_concat] at h
    by_cases hid : r.id = id
    · rw [if_pos hid] at h ⊢
      have hcomplete : IsComplete r := by
        by_contra hhollow
        exact h ⟨r, rfl, hhollow⟩
      cases hkind : r.kind with
      | notify =>
        obtain ⟨n, hn⟩ := Option.isSome_iff_exists.mp (hcomplete hkind)
        simp [posted?, Board.get?_insert, hid, hkind, hn]
      | cancel => simp [posted?, Board.get?_erase, hid, hkind]
    · rw [if_neg hid] at h ⊢
      rw [← ih h]
      cases hkind : r.kind with
      | notify =>
        cases hn : r.notification with
        | some n => simp [Board.get?_insert, Ne.symm hid]
        | none => rfl
      | cancel => simp [Board.get?_erase, Ne.symm hid]

theorem posts_of_mem_latest {e : Int32 × NotificationRecord}
    (h : e ∈ records.foldl keepLatest .empty) :
    e.2.id = e.1 ∧ e.2.kind = .notify ∧ e.2 ∈ records := by
  induction records using List.reverseRecOn with
  | nil => exact absurd h List.not_mem_nil
  | append_singleton records r ih =>
    have hold : e ∈ records.foldl keepLatest .empty →
        e.2.id = e.1 ∧ e.2.kind = .notify ∧ e.2 ∈ records ++ [r] := fun he =>
      (ih he).imp_right (And.imp_right (List.mem_append_left [r]))
    rw [latest_concat, keepLatest] at h
    cases hkind : r.kind with
    | notify =>
      rw [hkind] at h
      rcases Board.eq_or_mem_of_mem_insert h with rfl | h
      · exact ⟨rfl, hkind, List.mem_append_right records List.mem_cons_self⟩
      · exact hold h
    | cancel =>
      rw [hkind] at h
      exact hold (List.mem_filter.mp h).1

theorem mem_of_mem_latestOf (h : r ∈ latestOf records) : r ∈ records := by
  obtain ⟨e, he, rfl⟩ := List.mem_map.mp h
  exact (posts_of_mem_latest he).2.2

theorem foldl_replay_latest {latest : Board NotificationRecord} {before : Board Notification}
    (hsorted : latest.IsSorted) (hposts : ∀ e ∈ latest, e.2.id = e.1 ∧ e.2.kind = .notify)
    (hbefore : ∀ d ∈ before, ∀ e ∈ latest, d.1 < e.1) :
    (latest.map Prod.snd).foldl replay before =
      before ++ latest.pick NotificationRecord.notification := by
  induction latest generalizing before with
  | nil => exact (List.append_nil before).symm
  | cons e latest ih =>
    obtain ⟨i, r⟩ := e
    obtain ⟨hi, hsorted⟩ := List.pairwise_cons.mp hsorted
    obtain ⟨hid, hkind⟩ : r.id = i ∧ r.kind = .notify := hposts _ List.mem_cons_self
    have hposts' : ∀ e ∈ latest, e.2.id = e.1 ∧ e.2.kind = .notify := fun e he =>
      hposts e (List.mem_cons_of_mem _ he)
    have hbefore' : ∀ d ∈ before, ∀ e ∈ latest, d.1 < e.1 := fun d hd e he =>
      hbefore d hd e (List.mem_cons_of_mem _ he)
    rw [List.map_cons, List.foldl_cons, replay, hkind, hid, Board.pick, List.filterMap_cons]
    cases hn : r.notification with
    | none => exact ih hsorted hposts' hbefore'
    | some n =>
      -- The ids ascend, so that a post goes behind all that were replayed before it.
      have hinsert : before.insert i n = before ++ [(i, n)] :=
        Board.insert_eq_concat fun d hd => hbefore d hd _ List.mem_cons_self
      simp only [Option.map_some]
      rw [hinsert, ih hsorted hposts', List.append_assoc]
      · rfl
      · intro d hd e he
        rcases List.mem_append.mp hd with hd | hd
        · exact hbefore' d hd e he
        · obtain rfl := List.mem_singleton.mp hd
          exact hi e he

theorem activeOf_latestOf_eq_pick (records : List NotificationRecord) :
    activeOf (latestOf records) =
      (records.foldl keepLatest .empty).pick NotificationRecord.notification := by
  apply foldl_replay_latest (isSorted_latest records)
  · intro e he
    obtain ⟨hid, hkind, -⟩ := posts_of_mem_latest he
    exact ⟨hid, hkind⟩
  · exact fun d hd => absurd hd List.not_mem_nil

theorem get?_activeOf_latestOf (id : Int32) (records : List NotificationRecord) :
    (activeOf (latestOf records)).get? id = (lastOf id records).bind posted? := by
  rw [activeOf_latestOf_eq_pick, Board.get?_pick _ (isSorted_latest records), get?_latest]
  cases lastOf id records with
  | none => rfl
  | some r => cases hkind : r.kind <;> simp [Option.filter, posted?, hkind]

theorem activeOf_latestOf_eq_filter (records : List NotificationRecord) :
    activeOf (latestOf records) = (activeOf records).filter fun e => ¬EndsHollow records e.1 := by
  apply Board.eq_of_get?_eq (isSorted_activeOf _)
  · exact List.Pairwise.filter _ (isSorted_activeOf records)
  · intro id
    rw [Board.get?_filter fun id => ¬EndsHollow records id, get?_activeOf_latestOf]
    by_cases h : EndsHollow records id
    · rw [if_neg (by simpa using h)]
      obtain ⟨r, hr, hhollow⟩ := h
      rw [hr, Option.bind_some, posted?_eq_none hhollow]
    · rw [if_pos (decide_eq_true h), get?_activeOf h]

theorem activeOf_latestOf (h : ∀ r ∈ records, IsComplete r) :
    activeOf (latestOf records) = activeOf records := by
  rw [activeOf_latestOf_eq_filter, List.filter_eq_self]
  intro e he
  rw [decide_eq_true_iff]
  rintro ⟨r, hr, hhollow⟩
  exact hhollow (h r (mem_of_lastOf hr))

end CallNotice.NotificationJournal
