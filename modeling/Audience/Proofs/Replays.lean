import Audience.Proofs.Answers

/-!
# Replays that differ in upkeep

Sweeps and spans of time in a script, and how often a tracker sweeps by itself,
show in what a replay writes: in the lines of the sweeps and in how many
filters are tracked. They show nowhere else. Commands for upkeep leave what a
replay answers as it is (`agree_run_visible`), so replays of the same commands
but for those on trackers with any cleanup options agree
(`agree_run_of_visible_eq`): every query and every number of active filters
comes out the same and in the same order, the listener gets the same calls, and
a replay that it halts the other one does too.

What a replay writes is the lines of its findings, as long as the sink has room
(`output_run`); where it has not, how long a number is decides which line is the
last.
-/

namespace Audience

/-- Whether a command is for upkeep: a sweep, or a span of time to let pass. -/
def Command.isUpkeep : Command → Bool
  | .sweep | .sleep _ => true
  | .subscribe _ | .unsubscribe _ | .query _ | .size => false

theorem Tracker.Request.isUpkeep_command (command : Command) :
    (Request.command command).isUpkeep = command.isUpkeep := by
  cases command <;> rfl

/-- What a finding says apart from upkeep: of a sweep nothing, and of the size how many filters are
active. -/
def Finding.answer? : Finding → Option Finding
  | .subscribers topic found => some (.subscribers topic found)
  | .size _ active => some (.size 0 active)
  | .swept _ => none

/-- The lines of findings, one after another. -/
def linesOf (findings : List Finding) : List Char :=
  findings.flatMap fun finding => finding.line.toList ++ ['\n']

theorem turnedIn_answersIn (notes : List Note) : turnedIn (answersIn notes) = turnedIn notes := by
  rw [turnedIn, answersIn, List.filterMap_filterMap]
  refine List.filterMap_congr fun note _ => ?_
  cases note <;> rfl

/-! ## Commands -/

namespace Tracker

theorem turnedIn_perform_of_isUpkeep (t : Tracker) {command : Command}
    (h : command.isUpkeep = true) : turnedIn (t.perform command).notes = [] := by
  have htold : turnedIn (t.perform command).notes = toldIn (t.events (.command command)) :=
    (accounts_serve t (.command command)).told
  rw [htold]
  match command with
  | .sweep => rfl
  | .sleep span => exact toldIn_sweepsIn _

theorem answer?_perform_of_isUpkeep (t : Tracker) {command : Command}
    (h : command.isUpkeep = true) : (t.perform command).finding.bind (·.answer?) = none := by
  match command with
  | .sweep | .sleep _ => rfl

theorem halt_perform_of_isUpkeep (t : Tracker) {command : Command} (h : command.isUpkeep = true) :
    (t.perform command).halt = none := by
  match command with
  | .sweep | .sleep _ => rfl

/-- On trackers that are alike a command finds the same, upkeep apart. -/
theorem answer?_perform_of_alike {t u : Tracker} (h : t.Alike u) {command : Command}
    (hvisible : command.isUpkeep = false) :
    (t.perform command).finding.bind (·.answer?) = (u.perform command).finding.bind (·.answer?) := by
  match command with
  | .subscribe _ | .unsubscribe _ => rfl
  | .query topic => simp only [perform, query, h.hasAudience topic]
  | .size => simp only [perform, h.active, Option.bind_some, Finding.answer?]

theorem active_le_size (t : Tracker) : t.active ≤ t.size := List.countP_le_length

theorem le_of_finding_perform {t : Tracker} {command : Command} {tracked active : Nat}
    (h : (t.perform command).finding = some (.size tracked active)) : active ≤ tracked := by
  match command with
  | .size =>
    simp only [perform, Option.some.injEq, Finding.size.injEq] at h
    obtain ⟨rfl, rfl⟩ := h
    exact t.active_le_size

end Tracker

/-! ## Replays that agree -/

/-- Replays that differ in upkeep only. -/
structure Played.Agree (p q : Played) : Prop where
  findings : p.findings.filterMap (·.answer?) = q.findings.filterMap (·.answer?)
  turned : turnedIn p.notes = turnedIn q.notes
  halted : ∀ halt, p.fault = some (.halted halt) ↔ q.fault = some (.halted halt)
  tracker : p.tracker.Alike q.tracker

namespace Played.Agree

variable {p q r p' q' : Played}

theorem symm (h : p.Agree q) : q.Agree p :=
  ⟨h.findings.symm, h.turned.symm, fun halt => (h.halted halt).symm, h.tracker.symm⟩

theorem trans (h : p.Agree q) (h' : q.Agree r) : p.Agree r :=
  ⟨h.findings.trans h'.findings, h.turned.trans h'.turned,
    fun halt => (h.halted halt).trans (h'.halted halt), h.tracker.trans h'.tracker⟩

theorem andThen (hfindings : p.findings.filterMap (·.answer?) = q.findings.filterMap (·.answer?))
    (hturned : turnedIn p.notes = turnedIn q.notes) (h : p'.Agree q') :
    (p.andThen p').Agree (q.andThen q') where
  findings := by simp only [Played.andThen, List.filterMap_append, hfindings, h.findings]
  turned := by simp only [Played.andThen, turnedIn_append, hturned, h.turned]
  halted := h.halted
  tracker := h.tracker

theorem after (hfindings : p.findings.filterMap (·.answer?) = []) (hturned : turnedIn p.notes = [])
    (h : p'.Agree q) : (p.andThen p').Agree q where
  findings := by simp only [Played.andThen, List.filterMap_append, hfindings, h.findings,
    List.nil_append]
  turned := by simp only [Played.andThen, turnedIn_append, hturned, h.turned, List.nil_append]
  halted := h.halted
  tracker := h.tracker

end Played.Agree

namespace Playback

/-! ## One command after another -/

theorem filterMap_findings_step (t : Tracker) (sink : Sink) (command : Command) :
    (step t sink command).findings.filterMap (·.answer?) =
      ((t.perform command).finding.bind (·.answer?)).toList := by
  simp only [step]
  cases (t.perform command).finding with
  | none => rfl
  | some finding => cases h : finding.answer? <;> simp [h]

theorem turnedIn_step (t : Tracker) (sink : Sink) (command : Command) :
    turnedIn (step t sink command).notes = turnedIn (t.perform command).notes := rfl

/-- A sink takes a line whole, or there is no room for it. -/
theorem writeFinding_cases (finding : Option Finding) (sink : Sink) :
    (sink.writeFinding finding).2.2 = some .sinkFull ∨
      (sink.writeFinding finding).2.2 = none ∧
        (sink.writeFinding finding).1 = linesOf finding.toList := by
  cases finding with
  | none => exact .inr ⟨rfl, rfl⟩
  | some finding =>
    simp only [Sink.writeFinding, Sink.write]
    split
    · exact .inr ⟨rfl, by simp [linesOf]⟩
    · split
      · exact .inr ⟨rfl, by simp [linesOf]⟩
      · exact .inl rfl

/-- A command that the listener halts ends the replay, having found nothing. -/
theorem run_cons_of_halt {t : Tracker} {command : Command} {halt : Halt}
    (h : (t.perform command).halt = some halt) (sink : Sink) (commands : List Command) :
    run t sink (command :: commands) = step t sink command ∧
      (step t sink command).fault = some (.halted halt) ∧
      (step t sink command).output = linesOf (step t sink command).findings := by
  have hfault : (step t sink command).fault = some (.halted halt) := by simp only [step, h]
  refine ⟨by simp only [run, hfault], hfault, ?_⟩
  match command with
  | .subscribe _ | .unsubscribe _ => rfl

/-- A command that does not halt writes its line whole and leaves the rest to be done, if the sink
takes what the replay writes. -/
theorem run_cons_of_fits {t : Tracker} {sink : Sink} {command : Command} {commands : List Command}
    (h : (t.perform command).halt = none)
    (hfits : (run t sink (command :: commands)).fault ≠ some .sinkFull) :
    let first := step t sink command
    let rest := run first.tracker first.sink commands
    run t sink (command :: commands) = first.andThen rest ∧ rest.fault ≠ some .sinkFull ∧
      first.output = linesOf first.findings := by
  intro first rest
  have hfull : first.fault = (sink.writeFinding (t.perform command).finding).2.2 := by
    simp only [first, step, h]
  rcases writeFinding_cases (t.perform command).finding sink with hsink | ⟨hroom, hline⟩
  · refine absurd ?_ hfits
    have hfault : (step t sink command).fault = some .sinkFull := hfull.trans hsink
    simp only [run, hfault]
  · have hfault : (step t sink command).fault = none := hfull.trans hroom
    have hrun : run t sink (command :: commands) = first.andThen rest := by
      simp only [run, hfault]
      rfl
    rw [hrun] at hfits
    exact ⟨hrun, hfits, hline⟩

/-! ## Whole replays -/

/-- A sink without a limit is never full. -/
theorem fault_run_of_unlimited (t : Tracker) {sink : Sink} (h : sink.room = none)
    (commands : List Command) : (run t sink commands).fault ≠ some .sinkFull := by
  induction commands generalizing t sink with
  | nil =>
    simp only [run, finish]
    split <;> exact nofun
  | cons command commands ih =>
    have hwrite (finding : Option Finding) : (sink.writeFinding finding).2 = (sink, none) := by
      cases finding <;> simp [Sink.writeFinding, Sink.write, h]
    have hsink : (step t sink command).sink = sink := by simp only [step, hwrite]
    have hfault : (step t sink command).fault ≠ some .sinkFull := by
      simp only [step, hwrite]
      split <;> exact nofun
    simp only [run]
    split
    · exact hfault
    · rw [hsink]
      exact ih _ h

/-- What a replay writes is the lines of what it found. -/
theorem output_run {t : Tracker} {sink : Sink} {commands : List Command}
    (hfits : (run t sink commands).fault ≠ some .sinkFull) :
    (run t sink commands).output = linesOf (run t sink commands).findings := by
  induction commands generalizing t sink with
  | nil => rfl
  | cons command commands ih =>
    cases hhalt : (t.perform command).halt with
    | some halt =>
      obtain ⟨hrun, -, hline⟩ := run_cons_of_halt hhalt sink commands
      rw [hrun, hline]
    | none =>
      obtain ⟨hrun, hrest, hline⟩ := run_cons_of_fits hhalt hfits
      rw [hrun, Played.andThen, hline, ih hrest, linesOf, linesOf, linesOf, List.flatMap_append]

/-- A replay never finds more active filters than tracked ones. -/
theorem le_of_mem_findings_run {t : Tracker} {sink : Sink} {commands : List Command}
    {tracked active : Nat} (h : .size tracked active ∈ (run t sink commands).findings) :
    active ≤ tracked := by
  have hstep {t : Tracker} {sink : Sink} {command : Command}
      (h : .size tracked active ∈ (step t sink command).findings) : active ≤ tracked :=
    t.le_of_finding_perform (Option.mem_toList.1 h)
  induction commands generalizing t sink with
  | nil => exact absurd h List.not_mem_nil
  | cons command commands ih =>
    simp only [run] at h
    split at h
    · exact hstep h
    · exact (List.mem_append.1 h).elim hstep ih

/-- What a command does on trackers that are alike. -/
theorem alike_step {t u : Tracker} (h : t.Alike u) {command : Command}
    (hvisible : command.isUpkeep = false) (sink other : Sink) :
    let p := step t sink command
    let q := step u other command
    p.tracker.Alike q.tracker ∧
      p.findings.filterMap (·.answer?) = q.findings.filterMap (·.answer?) ∧
      turnedIn p.notes = turnedIn q.notes ∧
      (t.perform command).halt = (u.perform command).halt := by
  obtain ⟨hserve, hanswer⟩ :=
    Tracker.alike_serve h ((Tracker.Request.isUpkeep_command command).trans hvisible)
  have hnotes : answersIn (t.perform command).notes = answersIn (u.perform command).notes :=
    congrArg (·.notes) hanswer
  refine ⟨hserve, ?_, ?_, congrArg (·.halt) hanswer⟩
  · rw [filterMap_findings_step, filterMap_findings_step,
      Tracker.answer?_perform_of_alike h hvisible]
  · rw [turnedIn_step, turnedIn_step, ← turnedIn_answersIn, hnotes, turnedIn_answersIn]

/-- Without its commands for upkeep a replay on a tracker that is alike agrees. -/
theorem agree_run_visible {t u : Tracker} (h : t.Alike u) {sink other : Sink}
    {commands : List Command} (hfits : (run t sink commands).fault ≠ some .sinkFull)
    (hfits' : (run u other (commands.filter (!·.isUpkeep))).fault ≠ some .sinkFull) :
    (run t sink commands).Agree (run u other (commands.filter (!·.isUpkeep))) := by
  induction commands generalizing t u sink other with
  | nil =>
    refine ⟨rfl, rfl, fun halt => ?_, h⟩
    simp only [run, finish, List.filter_nil]
    split <;> split <;> simp
  | cons command commands ih =>
    cases hupkeep : command.isUpkeep with
    | true =>
      have hvisible : (command :: commands).filter (!·.isUpkeep) =
        commands.filter (!·.isUpkeep) := List.filter_cons_of_neg (by simp [hupkeep])
      have hnext : (step t sink command).tracker.Alike u :=
        Tracker.alike_serve_of_isUpkeep h ((Tracker.Request.isUpkeep_command command).trans hupkeep)
      obtain ⟨hrun, hrest, -⟩ := run_cons_of_fits (t.halt_perform_of_isUpkeep hupkeep) hfits
      rw [hvisible] at hfits' ⊢
      rw [hrun]
      refine .after ?_ (t.turnedIn_perform_of_isUpkeep hupkeep) (ih hnext hrest hfits')
      rw [filterMap_findings_step, t.answer?_perform_of_isUpkeep hupkeep]
      rfl
    | false =>
      have hvisible : (command :: commands).filter (!·.isUpkeep) =
        command :: commands.filter (!·.isUpkeep) := List.filter_cons_of_pos (by simp [hupkeep])
      obtain ⟨hnext, hfindings, hturned, hsame⟩ := alike_step h hupkeep sink other
      rw [hvisible] at hfits' ⊢
      cases hhalt : (t.perform command).halt with
      | some halt =>
        obtain ⟨hrun, hfault, -⟩ := run_cons_of_halt hhalt sink commands
        obtain ⟨hrun', hfault', -⟩ := run_cons_of_halt (hsame.symm.trans hhalt) other
          (commands.filter (!·.isUpkeep))
        rw [hrun, hrun']
        exact ⟨hfindings, hturned, fun _ => by rw [hfault, hfault'], hnext⟩
      | none =>
        obtain ⟨hrun, hrest, -⟩ := run_cons_of_fits hhalt hfits
        obtain ⟨hrun', hrest', -⟩ := run_cons_of_fits (hsame.symm.trans hhalt) hfits'
        rw [hrun, hrun']
        exact .andThen hfindings hturned (ih hnext hrest hrest')

/-- Replays of the same commands, up to those for upkeep, on trackers with any two cleanup options
agree: the queries find the same and as many filters are active, in the same order, and the listener
gets the same calls and halts both or neither. What they write is the lines of what they find, so it
differs in the lines of sweeps and in how many filters are tracked, which is never less than how many
are active. The listener may look at that number, if it does not act on it, and the sinks have room
for what is written. -/
theorem agree_run_of_visible_eq {listener : Listener} (ignoresSize : listener.IgnoresSize)
    (options more : CleanupOptions) (sink other : Sink) {commands commands' : List Command}
    (hsame : commands.filter (!·.isUpkeep) = commands'.filter (!·.isUpkeep)) :
    let p := run (Tracker.create listener options).1 sink commands
    let q := run (Tracker.create listener more).1 other commands'
    p.fault ≠ some .sinkFull → q.fault ≠ some .sinkFull →
      p.Agree q ∧
        p.output = linesOf p.findings ∧ q.output = linesOf q.findings ∧
        ∀ tracked active, .size tracked active ∈ p.findings ++ q.findings → active ≤ tracked := by
  intro p q hfits hfits'
  -- Both are compared with the commands that are left, replayed where there is room for any line.
  let start := (Tracker.create listener options).1
  let visible := run start {} (commands.filter (!·.isUpkeep))
  have hroom : visible.fault ≠ some .sinkFull := fault_run_of_unlimited start rfl _
  have hp : p.Agree visible :=
    agree_run_visible (Tracker.alike_create ignoresSize options options) hfits hroom
  have hq : q.Agree visible := by
    simp only [visible, hsame] at hroom ⊢
    exact agree_run_visible (Tracker.alike_create ignoresSize more options) hfits' hroom
  refine ⟨hp.trans hq.symm, output_run hfits, output_run hfits', fun tracked active hmem => ?_⟩
  exact (List.mem_append.1 hmem).elim le_of_mem_findings_run le_of_mem_findings_run

/-- One script sweeps, the other sleeps through two thousand periods of its tracker's timer. What the
second one finds follows from the first. -/
theorem agree_run_of_sweep_and_sleep :
    let listener : Listener := .leaf fun transition => .ask transition.filter fun sight =>
      .note (.reported ⟨"seen", transition, some sight⟩) .done
    let commands : List Command := [.subscribe "a", .unsubscribe "a", .sweep, .query "a", .size]
    let commands' : List Command :=
      [.subscribe "a", .unsubscribe "a", .query "a", .sleep (2 * Time.perSecond), .size]
    let p := run (Tracker.create listener ⟨Time.perSecond, 0⟩).1 {} commands
    let q := run (Tracker.create listener ⟨Time.perMillisecond, Time.perSecond⟩).1 {} commands'
    listener.IgnoresSize ∧ p.findings = [.swept 1, .subscribers "a" false, .size 0 0] ∧
      q.findings.filterMap (·.answer?) = [.subscribers "a" false, .size 0 0] ∧
      turnedIn q.notes = [⟨.first, "a"⟩, ⟨.last, "a"⟩] := by
  intro listener commands commands' p q
  have hignores : listener.IgnoresSize := fun _ => .ask _ fun _ _ _ => .note rfl .done
  have hsame : commands.filter (!·.isUpkeep) = commands'.filter (!·.isUpkeep) := rfl
  obtain ⟨hagree, -⟩ := agree_run_of_visible_eq hignores ⟨Time.perSecond, 0⟩
    ⟨Time.perMillisecond, Time.perSecond⟩ {} {} hsame (fault_run_of_unlimited _ rfl _)
    (fault_run_of_unlimited _ rfl _)
  have hfindings : p.findings = [.swept 1, .subscribers "a" false, .size 0 0] := rfl
  have hturned : turnedIn p.notes = [⟨.first, "a"⟩, ⟨.last, "a"⟩] := rfl
  refine ⟨hignores, hfindings, ?_, ?_⟩
  · rw [← hagree.findings, hfindings]
    rfl
  · rw [← hagree.turned, hturned]

/-- A listener that acts on the size tells clean-up apart. -/
example :
    let listener : Listener := .leaf fun _ => .ask "" fun sight =>
      if sight.size = 1 then .done else .subscribe "c" .done
    let start := (Tracker.create listener ⟨Time.perSecond, 0⟩).1
    (run start {} [.subscribe "a", .unsubscribe "a", .sweep, .subscribe "b", .size]).findings =
        [.swept 1, .size 1 1] ∧
      (run start {} [.subscribe "a", .unsubscribe "a", .subscribe "b", .size]).findings =
        [.size 3 2] := by
  decide

end Playback

end Audience
