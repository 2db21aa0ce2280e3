import CallNotice.Proofs.CallLog.Updating
import CallNotice.Proofs.Time.Order

namespace CallNotice

open Act

namespace Rows

structure IsFound (filter : CallLogFilter) (stored found : Rows) : Prop where
  perm : found.Perm (stored.filter filter.accepts)
  latestFirst : found.Pairwise fun row later => ¬row.date.parts < later.date.parts
  stable : ∀ moment, found.filter (·.date = moment) =
    (stored.filter filter.accepts).filter (·.date = moment)

variable {filter : CallLogFilter} {stored found found' : Rows}

theorem isFound_query (filter : CallLogFilter) (stored : Rows) :
    IsFound filter stored (stored.query filter) := by
  have htrans (a b c : CallLogEntry) (hab : b.date.notAfter a.date = true)
      (hbc : c.date.notAfter b.date = true) : c.date.notAfter a.date = true :=
    Timestamp.notAfter_trans hbc hab
  have htotal (a b : CallLogEntry) :
      (b.date.notAfter a.date || a.date.notAfter b.date) = true := Timestamp.notAfter_total _ _
  have hperm : (stored.query filter).Perm (stored.filter filter.accepts) := List.mergeSort_perm _ _
  constructor
  · exact hperm
  · apply (List.pairwise_mergeSort htrans htotal _).imp
    intro a b hab
    exact Timestamp.notAfter_iff.mp hab
  · intro moment
    -- Rows of one moment are in order already, so that the sorting keeps them in theirs.
    have hsorted : ((stored.filter filter.accepts).filter (·.date = moment)).Pairwise
        fun a b => b.date.notAfter a.date = true := by
      apply List.pairwise_of_forall_mem_list
      intro a ha b hb
      rw [of_decide_eq_true (List.mem_filter.mp ha).2, of_decide_eq_true (List.mem_filter.mp hb).2]
      exact Timestamp.notAfter_refl moment
    have hsub := (List.sublist_mergeSort htrans htotal hsorted List.filter_sublist).filter
      (·.date = moment)
    rw [List.filter_eq_self.mpr fun a ha => (List.mem_filter.mp ha).2] at hsub
    exact (hsub.eq_of_length (hperm.filter _).length_eq.symm).symm

theorem eq_of_stable {xs ys : Rows} (hperm : xs.Perm ys)
    (hxs : xs.Pairwise fun row later => ¬row.date.parts < later.date.parts)
    (hys : ys.Pairwise fun row later => ¬row.date.parts < later.date.parts)
    (hstable : ∀ moment, xs.filter (·.date = moment) = ys.filter (·.date = moment)) : xs = ys := by
  induction xs generalizing ys with
  | nil => exact hperm.nil_eq
  | cons x xs ih =>
    cases ys with
    | nil => exact absurd hperm.eq_nil (List.cons_ne_nil x xs)
    | cons y ys =>
      have hyx : ¬x.date.parts < y.date.parts := by
        rcases List.mem_cons.mp (hperm.mem_iff.mpr List.mem_cons_self) with rfl | hmem
        · exact Timestamp.not_parts_lt _
        · exact List.rel_of_pairwise_cons hxs hmem
      have hxy : ¬y.date.parts < x.date.parts := by
        rcases List.mem_cons.mp (hperm.mem_iff.mp List.mem_cons_self) with rfl | hmem
        · exact Timestamp.not_parts_lt _
        · exact List.rel_of_pairwise_cons hys hmem
      have hdate : x.date = y.date := Timestamp.eq_of_not_parts_lt hxy hyx
      have hhead := hstable x.date
      rw [List.filter_cons, List.filter_cons, if_pos (decide_eq_true rfl),
        if_pos (decide_eq_true hdate.symm)] at hhead
      obtain rfl : x = y := List.head_eq_of_cons_eq hhead
      congr 1
      apply ih hperm.cons_inv hxs.tail hys.tail
      intro moment
      by_cases hmoment : x.date = moment
      · rw [← hmoment]
        exact List.tail_eq_of_cons_eq hhead
      · have hrest := hstable moment
        rwa [List.filter_cons, List.filter_cons, if_neg (mt of_decide_eq_true hmoment),
          if_neg (mt of_decide_eq_true (hdate ▸ hmoment))] at hrest

theorem isFound_iff : IsFound filter stored found ↔ found = stored.query filter := by
  have hquery := isFound_query filter stored
  constructor
  · intro hfound
    apply eq_of_stable (hfound.perm.trans hquery.perm.symm) hfound.latestFirst hquery.latestFirst
    intro moment
    rw [hfound.stable, hquery.stable]
  · rintro rfl
    exact hquery

end Rows

theorem CallLogStore.run_query {store : CallLogStore} (h : store ≠ .unavailable)
    (filter : CallLogFilter) (s : Scene) :
    (store.query filter).run s = (.ok ((store.rows s.files).query filter), s) := by
  cases store with
  | memory rows => rfl
  | journal path => rfl
  | unavailable => exact absurd rfl h

end CallNotice
