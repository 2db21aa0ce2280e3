import CallNotice.Proofs.CallLog.Dilution
import CallNotice.Proofs.Host.Invariance
import CallNotice.Proofs.Notification.Curbing
import CallNotice.Replay

namespace CallNotice

open Journal NotificationJournal

variable {path : String}

namespace Host

theorem curbed_ask {ids : List Int32} {skipped : Nat} {h : Host} {act : Act Outlet}
    (hact : Act.Sustains (fun o => Sink.Curbed ids skipped path o.sinks) h.outlet act)
    (h₀ : Sink.Curbed ids skipped path h.outlet.sinks h.scene) :
    Sink.Curbed ids skipped path (h.ask act).2.outlet.sinks (h.ask act).2.scene := by
  rw [ask]
  rcases hrun : act.run h.scene with ⟨fault | next, s⟩
  · exact hact.error hrun h₀
  · exact hact.ok hrun h₀

theorem invariant_curbed (ids : List Int32) (skipped : Nat) (path : String) :
    Invariant ids fun h => Sink.Curbed ids skipped path h.outlet.sinks h.scene where
  tell h₀ event := h₀.diluted (.tell path event _)
  note h₀ _ := h₀
  setCount h₀ _ := h₀
  insert {h} h₀ e := by
    rw [insert_eq]
    exact h₀.diluted (h.store.dilutes_insert path e h.scene).1
  update {h} h₀ filter values := by
    rw [update_eq]
    exact h₀.diluted (h.store.dilutes_update path filter values h.scene).1
  notify {h} h₀ now id hid n := by
    have hsustains : Act.Sustains (fun o => Sink.Curbed ids skipped path o.sinks) h.outlet
        (h.outlet.notify now id n) := Outlet.curbed_notify now hid n h.outlet
    exact curbed_ask hsustains h₀
  cancel {h} h₀ now id hid := by
    have hsustains : Act.Sustains (fun o => Sink.Curbed ids skipped path o.sinks) h.outlet
        (h.outlet.cancel now id) := Outlet.curbed_cancel now hid h.outlet
    exact curbed_ask hsustains h₀

/-- What hosts leave behind, one after the other, where no journal was: each opens the journal and runs
without a skipped reduction, and whatever it shows it shows as the notifier does. -/
inductive LeftBehind (path : String) : Files → Prop
  | absent {fs : Files} (hfile : fs.node? (fs.place path) = none) : LeftBehind path fs
  | run {h : Host} {steps : List (Timestamp × HostStep)} (hleft : LeftBehind path h.scene.files)
    (hsinks : h.outlet.sinks.filterMap Sink.journal? = [⟨path, 0⟩])
    (hids : ∀ step ∈ steps, ∀ id ∈ step.2.id?, id ∈ [Notifier.noticeId])
    (hskips : (h.run steps).scene.skips = h.scene.skips) : LeftBehind path (h.run steps).scene.files

theorem journals_host (w : Workplace) (settings : Settings) (dryRun : Bool) (s : Scene) :
    (w.host settings dryRun s).outlet.sinks.filterMap Sink.journal? = [⟨w.notifications, 0⟩] := rfl

theorem LeftBehind.shortAt {fs : Files} (h : LeftBehind path fs) :
    ShortAt [Notifier.noticeId] (limit [Notifier.noticeId] + unchecked 0) path fs := by
  induction h with
  | absent hfile => exact shortAt_of_absent hfile
  | @run h steps _ hsinks hids hskips ih =>
    have hstart : Sink.Curbed [Notifier.noticeId] h.scene.skips path h.outlet.sinks h.scene :=
      ⟨_, hsinks, curbed_of_shortAt ih (Nat.le_refl _) rfl⟩
    obtain ⟨j, -, hcurbed⟩ := (invariant_curbed _ _ path).run (List.mem_singleton_self _) hstart hids
    exact (hcurbed.short hskips.le).mono (Nat.add_le_add_left (unchecked_le j.writes) _)

/-- After any steps of a sink, from where no journal was, the journal has at most nine records more than
would not be reduced, unless a reduction was skipped; and none is where the journal can be used. -/
theorem notices_stay_short (path : String) :
    (∀ (s : Scene) (k writes : Nat) (ids : List Int32) (steps : List (Timestamp × SinkStep)),
      s.files.node? (s.files.place path) = none → ids.length ≤ k →
      (∀ step ∈ steps, ∀ id ∈ step.2.id?, id ∈ ids) →
      let after := ((Sink.journal ⟨path, writes⟩).course s steps).2
      (Usable path s → after.skips = s.skips) ∧
        (after.skips = s.skips → (records path after.files).length ≤ max 200 k + 9)) ∧
    ∀ fs, LeftBehind path fs → (records path fs).length ≤ 209 := by
  constructor
  · intro s k writes ids steps habsent hk hids after
    refine ⟨fun husable => Sink.skips_course (j := ⟨path, writes⟩) husable steps, fun hskips => ?_⟩
    have hstart : Sink.Curbed ids s.skips path [.journal ⟨path, writes⟩] s :=
      ⟨_, rfl, curbed_of_shortAt (shortAt_of_absent habsent) (Nat.zero_le _) rfl⟩
    obtain ⟨j, -, hcurbed⟩ := Sink.curbed_course hids hstart
    have hlength : (records path after.files).length ≤ max 200 ids.length + 9 :=
      hcurbed.length_records_le hskips.le
    omega
  · exact fun fs hleft => hleft.shortAt.length_records_le

theorem notices_stay_short_of_many :
    let now : Timestamp := ⟨⟨2024, 1, 2, by decide⟩, 3, 4, 5, 0, by decide⟩
    let s : Scene := .ofFiles (.blank ["home"])
    let steps : List (Timestamp × SinkStep) := List.replicate 5000 (now, .cancel 7)
    let w : Workplace := ⟨"calls.jsonl", "notices.jsonl"⟩
    (records "notices.jsonl" ((Sink.journal ⟨"notices.jsonl", 0⟩).course s steps).2.files).length ≤ 209 ∧
      (records w.notifications ((w.host .standard false s).run
        [(now, .clear), (now, .clear)]).scene.files).length ≤ 209 := by
  intro now s steps w
  have habsent : s.files.node? (s.files.place "notices.jsonl") = none := by decide
  obtain ⟨hsink, hhost⟩ := notices_stay_short "notices.jsonl"
  constructor
  · have hids : ∀ step ∈ steps, ∀ id ∈ step.2.id?, id ∈ [(7 : Int32)] := by
      intro step hstep
      rw [List.eq_of_mem_replicate hstep]
      rintro _ ⟨⟩
      exact List.mem_singleton_self _
    have husable : Usable "notices.jsonl" s :=
      ⟨.ofFiles (s.files.put ["home", "notices.jsonl.lock"] (.file .empty)), rfl, rfl, rfl⟩
    obtain ⟨hskips, hlength⟩ := hsink s 1 0 [7] steps habsent (Nat.le_refl 1) hids
    exact hlength (hskips husable)
  · apply hhost
    apply LeftBehind.run (.absent habsent) (journals_host w .standard false s)
    · intro step hstep
      simp only [List.mem_cons, List.not_mem_nil, or_false] at hstep
      rcases hstep with rfl | rfl <;> rintro _ ⟨⟩
    · decide +kernel

end Host

end CallNotice
