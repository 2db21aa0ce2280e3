import CallNotice.Files.Path
import CallNotice.Proofs.Text.Lines
import Mathlib.Data.List.TakeWhile

namespace CallNotice.Path

open Text

theorem not_mem_of_mem_segments {path s : String} (h : s ∈ segments path) : '/' ∉ s.toList := by
  obtain ⟨piece, hpiece, rfl⟩ := List.mem_map.mp h
  rw [String.toList_ofList]
  exact not_mem_of_mem_splitAtMarks '/' path.toList piece hpiece

theorem segments_of_not_mem {s : String} (h : '/' ∉ s.toList) : segments s = [s] := by
  rw [segments, splitAtMarks_of_not_mem h, List.map_singleton, String.ofList_toList]

theorem segments_append_slash (s t : String) :
    segments (s ++ "/" ++ t) = segments s ++ segments t := by
  have htext : (s ++ "/" ++ t).toList = s.toList ++ '/' :: t.toList := by simp
  rw [segments, htext, splitAtMarks_append, List.map_append]
  rfl

theorem segments_intercalate {ss : List String} (hne : ss ≠ []) (h : ∀ s ∈ ss, '/' ∉ s.toList) :
    segments ("/".intercalate ss) = ss := by
  induction ss with
  | nil => exact absurd rfl hne
  | cons s ss ih =>
    have hs := segments_of_not_mem (h s List.mem_cons_self)
    cases ss with
    | nil => rwa [String.intercalate_singleton]
    | cons t ss =>
      rw [String.intercalate_cons_cons, segments_append_slash, hs,
        ih (List.cons_ne_nil t ss) fun u hu => h u (List.mem_cons_of_mem s hu)]
      rfl

theorem isAbsolute_append {s : String} (h : s ≠ "") (t : String) :
    isAbsolute (s ++ t) = isAbsolute s := by
  obtain ⟨c, cs, hcs⟩ := List.exists_cons_of_ne_nil (mt String.toList_eq_nil_iff.mp h)
  rw [isAbsolute, isAbsolute, String.toList_append, hcs]
  rfl

theorem isAbsolute_iff (path : String) :
    isAbsolute path = true ↔ path ≠ "" ∧ (segments path).head? = some "" := by
  cases hpath : path.toList with
  | nil =>
    obtain rfl : path = "" := String.toList_eq_nil_iff.mp hpath
    decide
  | cons c cs =>
    have hne : path ≠ "" := fun h => by
      rw [h] at hpath
      cases hpath
    obtain ⟨piece, pieces, hpieces⟩ := List.exists_cons_of_ne_nil (splitAtMarks_ne_nil '/' cs)
    rw [isAbsolute, segments, hpath, splitAtMarks_cons, hpieces, splitStep]
    by_cases hc : c = '/'
    · simp [hc, hne]
    · simp [hc]

theorem isHere_eq_false {s : String} (h : 2 ≤ s.length) : isHere s = false := by
  rw [isHere, Bool.or_eq_false_iff, decide_eq_false_iff_not, decide_eq_false_iff_not]
  constructor
  · rintro rfl
    exact absurd h (by decide)
  · rintro rfl
    exact absurd h (by decide)

theorem passed_concat (place : List String) (names : List String) (name : String) :
    passed place (names ++ [name]) = passed place names ++ [(names ++ [name]).foldl enter place] := by
  induction names generalizing place with
  | nil => rfl
  | cons first names ih => rw [List.cons_append, passed, ih, passed, List.cons_append, List.foldl_cons]

theorem names_eq_of_segments {path : String} {before : List String} {last : String}
    (h : segments path = before ++ [last]) (hlast : isHere last = false) :
    names path = before.filter (fun s => !isHere s) ++ [last] := by
  rw [names, h, List.filter_append]
  simp only [List.filter_cons, hlast, Bool.not_false, if_true, List.filter_nil]

theorem dropLast_way {path : String} {before : List String} {last : String}
    (h : names path = before ++ [last]) (start : List String) :
    (way start path).dropLast = passed (origin start path) before := by
  rw [way, h, passed_concat, List.dropLast_concat]

theorem exists_last {path : String} (h : namesDirectory path = false) :
    ∃ before last, segments path = before ++ [last] ∧ isHere last = false ∧ last ≠ ".." := by
  have hne : segments path ≠ [] := by
    rw [segments, ne_eq, List.map_eq_nil_iff]
    exact splitAtMarks_ne_nil '/' path.toList
  obtain ⟨before, last, hsegments⟩ := (List.eq_nil_or_concat (segments path)).resolve_left hne
  rw [List.concat_eq_append] at hsegments
  rw [namesDirectory, hsegments, List.getLast?_concat] at h
  simp only [Bool.or_eq_false_iff, decide_eq_false_iff_not] at h
  exact ⟨before, last, hsegments, h⟩

variable {path : String} (start : List String)

theorem segments_lockFile {before : List String} {last : String}
    (h : segments path = before ++ [last]) :
    segments (lockFile path) = before ++ [last ++ ".lock"] := by
  have hlast : segments path = ((splitAtMarks '/' path.toList).dropLast.map String.ofList) ++
      [String.ofList (tornLine '/' path.toList)] := by
    rw [segments, splitAtMarks_eq_concat, List.map_append, List.map_singleton]
    simp
  obtain ⟨rfl, hend⟩ := List.append_inj' (hlast.symm.trans h) rfl
  cases hend
  rw [lockFile, segments, String.toList_append, splitAtMarks_append_piece _ _ _ (by decide),
    List.map_append, List.map_singleton, String.ofList_append, String.ofList_toList]

theorem dropLast_way_lockFile (h : namesDirectory path = false) :
    (way start (lockFile path)).dropLast = (way start path).dropLast := by
  obtain ⟨before, last, hsegments, hlast, -⟩ := exists_last h
  have hne : path ≠ "" := by
    rintro rfl
    exact absurd h (by decide)
  have hlock : isHere (last ++ ".lock") = false := by
    apply isHere_eq_false
    rw [String.length_append]
    exact Nat.le_add_left_of_le (by decide)
  rw [dropLast_way (names_eq_of_segments hsegments hlast),
    dropLast_way (names_eq_of_segments (segments_lockFile hsegments) hlock), origin, lockFile,
    isAbsolute_append hne, origin]

theorem names_ofNames {ns : List String} (hne : ns ≠ []) (h : ∀ n ∈ ns, '/' ∉ n.toList)
    (hhere : ∀ n ∈ ns, isHere n = false) (absolute : Bool) : names (ofNames absolute ns) = ns := by
  have hkept : ns.filter (fun s => !isHere s) = ns :=
    List.filter_eq_self.mpr fun n hn => by rw [hhere n hn]; rfl
  cases absolute with
  | false =>
    rw [ofNames, if_neg Bool.false_ne_true, String.empty_append, names, segments_intercalate hne h,
      hkept]
  | true =>
    have hroot : "/" ++ "/".intercalate ns = "" ++ "/" ++ "/".intercalate ns := by
      rw [String.empty_append]
    rw [ofNames, if_pos rfl, names, hroot, segments_append_slash, segments_intercalate hne h,
      List.filter_append, hkept]
    rfl

theorem isAbsolute_ofNames {n : String} {ns : List String} (h : ∀ m ∈ n :: ns, '/' ∉ m.toList)
    (hhere : isHere n = false) (absolute : Bool) :
    isAbsolute (ofNames absolute (n :: ns)) = absolute := by
  cases absolute with
  | true => rw [ofNames, if_pos rfl, isAbsolute_append (by decide)]; rfl
  | false =>
    rw [ofNames, if_neg Bool.false_ne_true, String.empty_append, Bool.eq_false_iff]
    intro habsolute
    obtain ⟨-, hhead⟩ := (isAbsolute_iff _).mp habsolute
    rw [segments_intercalate (List.cons_ne_nil n ns) h, List.head?_cons, Option.some.injEq] at hhead
    rw [hhead] at hhere
    exact absurd hhere (by decide)

theorem not_mem_nameWithExtension {name : String} (h : '/' ∉ name.toList) :
    '/' ∉ (nameWithExtension "tmp" name).toList := by
  have hstem : '/' ∉ (stem name).toList := by
    unfold stem
    dsimp only
    split
    · rw [String.toList_ofList]
      exact fun hmem => h (List.mem_of_mem_take hmem)
    · exact h
  unfold nameWithExtension
  split
  · decide
  · simp [hstem]

theorem isHere_nameWithExtension (name : String) :
    isHere (nameWithExtension "tmp" name) = false := by
  unfold nameWithExtension
  split
  · decide
  · apply isHere_eq_false
    rw [String.length_append, String.length_append]
    exact Nat.le_add_left_of_le (by decide)

theorem dropLast_way_spareFile (h : namesDirectory path = false) :
    (way start (spareFile path)).dropLast = (way start path).dropLast := by
  obtain ⟨before, last, hsegments, hlast, -⟩ := exists_last h
  have hnames := names_eq_of_segments hsegments hlast
  have hslash : ∀ n ∈ names path, '/' ∉ n.toList := fun n hn =>
    not_mem_of_mem_segments (List.mem_filter.mp hn).1
  have hhere : ∀ n ∈ names path, isHere n = false := fun n hn => by
    simpa using (List.mem_filter.mp hn).2
  have hspare : spareFile path = ofNames (isAbsolute path)
      (before.filter (fun s => !isHere s) ++ [nameWithExtension "tmp" last]) := by
    rw [spareFile, withExtension, hnames, List.getLast?_concat, List.dropLast_concat]
  rw [hnames] at hslash hhere
  have hslash' : ∀ n ∈ before.filter (fun s => !isHere s) ++ [nameWithExtension "tmp" last],
      '/' ∉ n.toList := by
    intro n hn
    rcases List.mem_append.mp hn with hn | hn
    · exact hslash n (List.mem_append_left _ hn)
    · rw [List.mem_singleton.mp hn]
      exact not_mem_nameWithExtension (hslash last (by simp))
  have hhere' : ∀ n ∈ before.filter (fun s => !isHere s) ++ [nameWithExtension "tmp" last],
      isHere n = false := by
    intro n hn
    rcases List.mem_append.mp hn with hn | hn
    · exact hhere n (List.mem_append_left _ hn)
    · rw [List.mem_singleton.mp hn]
      exact isHere_nameWithExtension last
  have habsolute : isAbsolute (spareFile path) = isAbsolute path := by
    obtain ⟨n, ns, hns⟩ := List.exists_cons_of_ne_nil (List.append_ne_nil_of_right_ne_nil
      (before.filter fun s => !isHere s) (List.cons_ne_nil (nameWithExtension "tmp" last) []))
    rw [hspare, hns]
    rw [hns] at hslash' hhere'
    exact isAbsolute_ofNames hslash' (hhere' n List.mem_cons_self) _
  have hnames' := names_ofNames (by simp) hslash' hhere' (isAbsolute path)
  rw [← hspare] at hnames'
  rw [dropLast_way hnames, dropLast_way hnames', origin, habsolute, origin]

theorem parent?_eq {before : List String} {last : String} (h : segments path = before ++ [last])
    (hlast : isHere last = false) :
    parent? path = some (match (before.reverse.dropWhile isHere).reverse with
      | [] => if isAbsolute path then "/" else ""
      | kept => "/".intercalate kept) := by
  have hdrop : (segments path).reverse.dropWhile isHere = last :: before.reverse := by
    rw [h, List.reverse_concat, List.dropWhile_cons, hlast]
    rfl
  rw [parent?, hdrop]
  dsimp only
  cases (before.reverse.dropWhile isHere).reverse <;> rfl

theorem way_parent {parent : String} (h : namesDirectory path = false)
    (hparent : parent? path = some parent) : way start parent = (way start path).dropLast := by
  obtain ⟨before, last, hsegments, hlast, -⟩ := exists_last h
  have hne : path ≠ "" := by
    rintro rfl
    exact absurd h (by decide)
  rw [dropLast_way (names_eq_of_segments hsegments hlast)]
  rw [parent?_eq hsegments hlast, Option.some.injEq] at hparent
  -- What is dropped from the names names no other place.
  obtain ⟨heres, hbefore, hheres⟩ : ∃ heres,
      before = (before.reverse.dropWhile isHere).reverse ++ heres ∧ ∀ s ∈ heres, isHere s = true := by
    refine ⟨(before.reverse.takeWhile isHere).reverse, ?_, ?_⟩
    · rw [← List.reverse_append, List.takeWhile_append_dropWhile, List.reverse_reverse]
    · intro s hs
      exact List.mem_takeWhile_imp (List.mem_reverse.mp hs)
  have hfilter : before.filter (fun s => !isHere s) =
      (before.reverse.dropWhile isHere).reverse.filter fun s => !isHere s := by
    conv => lhs; rw [hbefore]
    rw [List.filter_append, List.append_right_eq_self, List.filter_eq_nil_iff]
    intro s hs
    rw [hheres s hs]
    decide
  have hend := List.head?_dropWhile_not isHere before.reverse
  rw [hfilter]
  rw [hbefore] at hsegments
  generalize before.reverse.dropWhile isHere = dropped at *
  cases hkept : dropped.reverse with
  | nil =>
    rw [hkept] at hparent
    rw [List.filter_nil, ← hparent, origin]
    by_cases habsolute : isAbsolute path = true
    · rw [if_pos habsolute, if_pos habsolute]
      rfl
    · rw [if_neg habsolute, if_neg habsolute]
      rfl
  | cons first kept =>
    rw [hkept] at hparent hsegments
    have hslash : ∀ s ∈ first :: kept, '/' ∉ s.toList := by
      intro s hs
      have hmem : s ∈ segments path := by
        rw [hsegments]
        exact List.mem_append_left _ (List.mem_append_left _ hs)
      exact not_mem_of_mem_segments hmem
    have hsegments' := segments_intercalate (List.cons_ne_nil first kept) hslash
    have habsolute : isAbsolute parent = isAbsolute path := by
      rw [Bool.eq_iff_iff, isAbsolute_iff, isAbsolute_iff, ← hparent, hsegments', hsegments]
      simp only [hne, not_false_eq_true, true_and, ne_eq, List.cons_append, List.head?_cons,
        Option.some.injEq, and_iff_right_iff_imp]
      -- A relative path does not begin with an empty name.
      rintro rfl hempty
      rw [hempty] at hsegments'
      obtain rfl : kept = [] := (List.cons.inj hsegments').2.symm
      obtain rfl : dropped = [""] := by
        rw [← List.reverse_reverse dropped, hkept]
        rfl
      simp [isHere] at hend
    rw [way, names, ← hparent, hsegments', hparent, origin, habsolute, origin]

end CallNotice.Path
