import Debugger.Proofs.Pause

/-!
# When a parked call is released

A call that is parked in a pause waits for a token, and a resume hands one over only if the paused flag is set. So while
the session goes on, a resume releases the call just when the flag is set (`releases_iff_paused`). A stop sets it, and
only resetting it directly can take it from a call that is still parked: then every resume is refused
(`not_released_without_flag`).
-/

namespace Debugger.Engine

/-- A resume is granted, and the parked call goes on with the actions that are left of it. -/
def Releases (setup : Setup) (e : Engine) (command : Resume) : Prop :=
  ∃ rest, e.call = some (.resume, rest) ∧
    e.step setup (.resume command) =
      ((e.proceed setup ((e.session.goOn command).takeToken .resume) .completed rest).1, .ok,
        (e.proceed setup ((e.session.goOn command).takeToken .resume) .completed rest).2)

private theorem step_resume_of_not_paused (setup : Setup) {e : Engine} (hset : e.Settled)
    (hpaused : e.session.flags.paused = false) (hterminate : e.session.flags.terminate = false) (command : Resume) :
    e.step setup (.resume command) = (e, .refused .notPaused, none) := by
  have hstep : e.step setup (.resume command) = (((e.serve (.resume command)).1.settle setup).1,
      (e.serve (.resume command)).2, ((e.serve (.resume command)).1.settle setup).2) := rfl
  have hserve : e.serve (.resume command) = (e, .refused .notPaused) := by
    simp [serve, Session.resume, hterminate, hpaused]
  rw [hstep, hserve, settle_of_settled setup hset]

/-- While the session goes on and a call is parked, a resume releases the call if the paused flag is set, and is refused
if not. The flag is set unless it was reset directly. -/
theorem releases_iff_paused (setup : Setup) (files : Files) (ops : List Operation) :
    let e := (new setup files).run setup ops
    e.session.isSet .terminate = false → e.waits (· = .resume) = true →
      (∀ command, e.Releases setup command ↔ e.session.isSet .paused = true) ∧
        (e.session.isSet .paused = false → ∀ command,
          e.step setup (.resume command) = (e, .refused .notPaused, none)) ∧
        (Operation.clear .paused ∉ ops → e.session.isSet .paused = true) := by
  intro e hterm hparked
  rw [Session.isSet_terminate, Bool.or_eq_false_iff] at hterm
  rw [Session.isSet_paused]
  have hrefused : e.session.flags.paused = false → ∀ command,
      e.step setup (.resume command) = (e, .refused .notPaused, none) := fun hp command =>
    step_resume_of_not_paused setup (settled_run (settled_new setup files) ops) hp hterm.2 command
  refine ⟨fun command => ⟨?_, fun hp => ?_⟩, hrefused, fun hclear => ?_⟩
  · rintro ⟨rest, -, hstep⟩
    cases hp : e.session.flags.paused with
    | true => rfl
    | false =>
      rw [hrefused hp command] at hstep
      exact absurd (congrArg (·.2.1) hstep) nofun
  · rw [waits_eq, waiting] at hparked
    obtain ⟨⟨w, rest⟩, hcall, rfl⟩ := Option.map_eq_some_iff.1 hparked
    exact ⟨rest, hcall, step_resume setup hcall hp hterm.2 command⟩
  · exact (paused_of_parked (e := new setup files) rfl hclear hparked).1

/-- A flag that was reset at a pause and is set again lets the next resume through. -/
theorem released_after_flag_is_back :
    let e := (new {} {}).run {} [.call [.stop .afterStep {}], .clear .paused, .assert .paused]
    (e.session.isSet .terminate = false ∧ e.waits (· = .resume) = true) ∧ e.Releases {} .continue := by
  intro e
  obtain ⟨hreleases, -, -⟩ :=
    releases_iff_paused {} {} [.call [.stop .afterStep {}], .clear .paused, .assert .paused] rfl rfl
  exact ⟨⟨rfl, rfl⟩, (hreleases .continue).2 rfl⟩

/-- A call is not always released: once the flag is reset at a pause, the session goes on and the call stays parked, but
a continue is refused. -/
theorem not_released_without_flag :
    ¬ ∀ ops : List Operation, let e := (new {} {}).run {} ops
      e.session.isSet .terminate = false → e.waits (· = .resume) = true → e.Releases {} .continue := by
  intro h
  obtain ⟨rest, -, hstep⟩ := h [.call [.stop ⟨.step, "d", "t"⟩ { depth := 1 }], .clear .paused] rfl rfl
  exact absurd (congrArg (·.2.1) hstep) nofun

end Debugger.Engine
