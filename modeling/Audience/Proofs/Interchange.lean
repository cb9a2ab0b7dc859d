import Mathlib.Data.List.Nodup
import Audience.Proofs.Answers
import Audience.Proofs.Retention

/-!
# Calls on different filters

A call on a filter leaves the entries of all others alone. So while the clock
stands still and nothing is swept, the entry of a filter, with the instant
since which it is idle, is what the calls on that filter make of it one after
another (`Ledger.find?_replay_of_still`), and calls on different filters may
change places. That shows in the order of the entries and in nothing else.

* `Ledger.Same` says of two ledgers that they have the same entries, up to that
  order; `Ledger.same_iff` says so by filter.
* `Tracker.Same` trackers, which have the same listener and the same clock
  besides, say and do the same on a call, whatever the listener does
  (`Tracker.same_change`).
* Those that are `Tracker.InStep`, with the same timer too, give the same
  `replies` to any further requests, sweeps and time passing included
  (`Tracker.inStep_run`). A reply has the filters that a sweep removed in the
  order in which the log has them (`Sweep.logLines_ordered`).
-/

namespace Audience

/-! ## The same entries -/

namespace Ledger

/-- Ledgers with the same entries, in whatever order these came in. -/
structure Same (l m : Ledger) : Prop where
  sound : l.Sound
  sound' : m.Sound
  perm : l.entries.Perm m.entries

variable {l m : Ledger}

theorem mem_entries_iff (h : l.Sound) (e : Entry) : e ∈ l.entries ↔ l.find? e.filter = some e := by
  rw [find?_eq_some_iff h, and_iff_left rfl]

/-- Sound ledgers have the same entries if they have the same one for every filter. -/
theorem same_iff (h : l.Sound) (h' : m.Sound) : l.Same m ↔ ∀ f, l.find? f = m.find? f := by
  constructor
  · intro hsame f
    ext e
    rw [find?_eq_some_iff h, find?_eq_some_iff h', hsame.perm.mem_iff]
  · intro hfind
    refine ⟨h, h', (List.perm_ext_iff_of_nodup h.unique.of_map h'.unique.of_map).2 fun e => ?_⟩
    rw [mem_entries_iff h, mem_entries_iff h', hfind]

namespace Same

theorem refl (h : l.Sound) : l.Same l := ⟨h, h, .refl _⟩

theorem find? (h : l.Same m) (f : String) : l.find? f = m.find? f :=
  (same_iff h.sound h.sound').1 h f

theorem holders (h : l.Same m) (f : String) : l.holders f = m.holders f := by
  rw [Ledger.holders, Ledger.holders, count?, count?, h.find?]

theorem size (h : l.Same m) : l.size = m.size := h.perm.length_eq

theorem active (h : l.Same m) : l.active = m.active := h.perm.countP_eq _

theorem anyActive (h : l.Same m) (test : String → Bool) : l.anyActive test = m.anyActive test :=
  h.perm.any_eq

theorem subscribe (h : l.Same m) (filter : String) :
    (l.subscribe filter).1.Same (m.subscribe filter).1 := by
  rw [same_iff (sound_subscribe h.sound _) (sound_subscribe h.sound' _)]
  intro f
  rw [find?_subscribe, find?_subscribe, h.holders, h.find?]

theorem unsubscribe (h : l.Same m) (now : Nat) (filter : String) :
    (l.unsubscribe now filter).1.Same (m.unsubscribe now filter).1 := by
  rw [same_iff (sound_unsubscribe h.sound _ _) (sound_unsubscribe h.sound' _ _)]
  intro f
  rw [find?_unsubscribe, find?_unsubscribe, h.find?]

theorem sweep (h : l.Same m) (now : Int) (threshold : Nat) :
    (l.sweep now threshold).1.Same (m.sweep now threshold).1 :=
  ⟨sound_sweep h.sound .., sound_sweep h.sound' .., h.perm.filter _⟩

theorem removed (h : l.Same m) (now : Int) (threshold : Nat) :
    (l.sweep now threshold).2.Perm (m.sweep now threshold).2 :=
  (h.perm.filter _).map _

end Same

end Ledger

/-! ## The same calls on each filter -/

/-- Whether events are calls that come while the clock stands still. -/
def Still (now : Nat) (events : List Event) : Prop :=
  ∀ event ∈ events, ∃ turn filter told, event = .call now turn filter told

theorem still_nil (now : Nat) : Still now [] := fun _ hmem => absurd hmem List.not_mem_nil

theorem still_append {now : Nat} {events more : List Event} :
    Still now (events ++ more) ↔ Still now events ∧ Still now more :=
  List.forall_mem_append

/-- What a call on a filter at an instant makes of its entry. -/
def Entry.called (now : Nat) (f : String) (known? : Option Entry) (turn : Turn) : Option Entry :=
  match turn with
  | .first => some ⟨f, (known?.map (·.holders)).getD 0 + 1, none⟩
  | .last => known?.map (·.released now)

namespace Ledger

variable {threshold now : Nat}

/-- While the clock stands still the entry of a filter comes of the calls on that filter alone. -/
theorem find?_replay_of_still {events : List Event} (h : Still now events) (l : Ledger)
    (f : String) : (l.replay threshold events).find? f =
      (callsOn f events).foldl (Entry.called now f) (l.find? f) := by
  induction events generalizing l with
  | nil => rfl
  | cons event events ih =>
    obtain ⟨⟨turn, filter, told, rfl⟩, hrest⟩ := List.forall_mem_cons.1 h
    rw [replay_cons, ih hrest, find?_apply_call, callsOn_cons_call]
    -- A call on another filter is passed over on both sides.
    split
    · cases turn <;> rfl
    · rfl

end Ledger

/-! ## The same notes -/

/-- Names in the order in which the log has them. -/
def byName (names : List String) : List String := names.mergeSort fun a b => decide (a ≤ b)

theorem pairwise_byName (names : List String) :
    (byName names).Pairwise fun a b => decide (a ≤ b) = true := by
  refine List.pairwise_mergeSort (fun a b c h h' => ?_) (fun a b => ?_) names
  · exact decide_eq_true (String.le_trans (of_decide_eq_true h) (of_decide_eq_true h'))
  · rw [Bool.or_eq_true, decide_eq_true_eq, decide_eq_true_eq]
    exact String.le_total a b

theorem byName_byName (names : List String) : byName (byName names) = byName names :=
  List.mergeSort_of_pairwise (pairwise_byName names)

theorem byName_eq_of_perm {names more : List String} (h : names.Perm more) :
    byName names = byName more :=
  List.Perm.eq_of_pairwise
    (fun _ _ _ _ hle hge => String.le_antisymm (of_decide_eq_true hle) (of_decide_eq_true hge))
    (pairwise_byName names) (pairwise_byName more)
    ((List.mergeSort_perm ..).trans (h.trans (List.mergeSort_perm ..).symm))

/-- The sweep with the filters that it removed in order. -/
def Sweep.ordered (s : Sweep) : Sweep := { s with removed := byName s.removed }

/-- The note with the filters in order if it tells of a sweep. -/
def Note.ordered : Note → Note
  | .swept sweep => .swept sweep.ordered
  | note => note

/-- The log does not tell in which order a sweep came upon what it removed. -/
theorem Sweep.logLines_ordered (s : Sweep) : s.ordered.logLines = s.logLines := by
  have hnil : byName s.removed ≠ [] ↔ s.removed ≠ [] := by
    rw [← List.length_pos_iff, ← List.length_pos_iff, byName, List.length_mergeSort]
  have hlength : (byName s.removed).length = s.removed.length := List.length_mergeSort _
  have hsorted : (byName s.removed).mergeSort (fun a b => decide (a ≤ b)) = byName s.removed :=
    byName_byName s.removed
  simp only [logLines, ordered, hnil, hlength, hsorted]
  rfl

theorem logAt_map_ordered (max : LogLevel) (notes : List Note) :
    logAt max (notes.map Note.ordered) = logAt max notes := by
  have hlines (note : Note) : note.ordered.logLines = note.logLines := by
    cases note with
    | swept sweep => exact sweep.logLines_ordered
    | _ => rfl
  rw [logAt, logAt, List.flatMap_map]
  simp only [hlines]

/-! ## The same changes -/

namespace Tracker

/-- Trackers at the same clock, with the same listener and the same entries. -/
structure Same (t u : Tracker) : Prop where
  listener : t.listener = u.listener
  clock : t.clock = u.clock
  ledger : t.ledger.Same u.ledger

namespace Same

variable {t u : Tracker}

theorem hasAudience (h : t.Same u) (topic : String) : t.hasAudience topic = u.hasAudience topic :=
  h.ledger.anyActive _

theorem size (h : t.Same u) : t.size = u.size := h.ledger.size

theorem turned (h : t.Same u) (turn : Turn) (filter : String) :
    (t.count turn filter).2 = (u.count turn filter).2 := by
  rw [turned_count, turned_count, h.ledger.holders]

theorem count (h : t.Same u) (turn : Turn) (filter : String) :
    (t.count turn filter).1.Same (u.count turn filter).1 := by
  cases turn with
  | first => exact ⟨h.listener, h.clock, h.ledger.subscribe filter⟩
  | last =>
    refine ⟨h.listener, h.clock, ?_⟩
    show (t.ledger.unsubscribe t.clock filter).1.Same (u.ledger.unsubscribe u.clock filter).1
    rw [h.clock]
    exact h.ledger.unsubscribe u.clock filter

end Same

end Tracker

/-- Changes that leave trackers that are the same, and say and halt the same. -/
structure Changed.Same (c d : Changed) : Prop where
  tracker : c.tracker.Same d.tracker
  halt : c.halt = d.halt
  notes : c.notes = d.notes

theorem Changed.Same.after {c d : Changed} (h : c.Same d) (notes : List Note) :
    (c.after notes).Same (d.after notes) :=
  ⟨h.tracker, h.halt, congrArg (notes ++ ·) h.notes⟩

namespace Tracker

/-- Changes that are the same, and then what the reaction goes on with unless the changes have come
to a halt. -/
theorem same_change_then {changed changed' rest rest' : Changed} (hchange : changed.Same changed')
    (hrest : changed.tracker.Same changed'.tracker → rest.Same rest') :
    Changed.Same
      (match changed.halt with
        | some _ => changed
        | none => rest.after changed.notes)
      (match changed'.halt with
        | some _ => changed'
        | none => rest'.after changed'.notes) := by
  rw [← hchange.halt, ← hchange.notes]
  cases changed.halt with
  | some _ => exact hchange
  | none => exact (hrest hchange.tracker).after changed.notes

theorem same_carryOut {change : Turn → String → Tracker → Changed}
    (h : ∀ turn filter t u, t.Same u → (change turn filter t).Same (change turn filter u))
    (reaction : Reaction) {t u : Tracker} (htracker : t.Same u) :
    (carryOut change reaction t).Same (carryOut change reaction u) := by
  induction reaction generalizing t u with
  | done => exact ⟨htracker, rfl, rfl⟩
  | note remark next ih => exact (ih htracker).after [remark.note]
  | ask topic next ih =>
    simp only [carryOut, query, htracker.hasAudience topic, htracker.size]
    exact (ih _ htracker).after _
  | subscribe filter next ih => exact same_change_then (h .first filter t u htracker) ih
  | unsubscribe filter next ih => exact same_change_then (h .last filter t u htracker) ih
  | abort reason => exact ⟨htracker, rfl, rfl⟩

/-- What a change does and says depends on nothing but the listener, the clock and the entries. -/
theorem same_change {t u : Tracker} (h : t.Same u) (depth : Nat) (turn : Turn) (filter : String) :
    (t.change depth turn filter).Same (u.change depth turn filter) := by
  -- The changes that the listener makes when it is told nest one less deep.
  induction depth generalizing turn filter t u with
  | zero => exact ⟨h, rfl, rfl⟩
  | succ depth ih =>
    have hcount := h.count turn filter
    simp only [change, h.turned turn filter, h.listener]
    split
    · exact (same_carryOut (fun turn filter t u h => ih h turn filter) _ hcount).after _
    · exact ⟨hcount, rfl, rfl⟩

end Tracker

/-! ## The same ticks -/

theorem Ledger.Same.sweepNoted {l m : Ledger} (h : l.Same m) (scheduled : Bool) (now : Int)
    (threshold : Nat) :
    (l.sweepNoted scheduled now threshold).1.Same (m.sweepNoted scheduled now threshold).1 ∧
      (l.sweepNoted scheduled now threshold).2.ordered =
        (m.sweepNoted scheduled now threshold).2.ordered := by
  have hleft := h.sweep now threshold
  refine ⟨hleft, ?_⟩
  show Note.swept ⟨scheduled, now, byName (l.sweep now threshold).2, (l.sweep now threshold).1.size⟩ =
    Note.swept ⟨scheduled, now, byName (m.sweep now threshold).2, (m.sweep now threshold).1.size⟩
  rw [byName_eq_of_perm (h.removed now threshold), hleft.size]

/-- Stretches of ticks that leave the same deadline and the same entries, and say the same. -/
structure Ticks.Same (ticks other : Ticks) : Prop where
  deadline : ticks.deadline = other.deadline
  ledger : ticks.ledger.Same other.ledger
  notes : ticks.notes.map Note.ordered = other.notes.map Note.ordered

namespace Timer

variable {interval threshold deadline : Nat} {l : Ledger}

theorem same_fireDue {now : Nat} : ∀ m : Ledger, l.Same m →
    (fireDue interval threshold now deadline l).Same (fireDue interval threshold now deadline m) := by
  fun_induction fireDue interval threshold now deadline l with
  | case1 deadline l due left note hswept rest ih =>
    intro m h
    obtain ⟨hleft, hnote⟩ := h.sweepNoted true now threshold
    rw [hswept] at hleft hnote
    have hrest := ih _ hleft
    rw [fireDue, if_pos due]
    exact ⟨hrest.deadline, hrest.ledger, congrArg₂ List.cons hnote hrest.notes⟩
  | case2 deadline l early =>
    intro m h
    rw [fireDue, if_neg early]
    exact ⟨rfl, h, rfl⟩

theorem same_fireUntil {wake : Nat} : ∀ m : Ledger, l.Same m →
    (fireUntil interval threshold wake deadline l).Same
      (fireUntil interval threshold wake deadline m) := by
  fun_induction fireUntil interval threshold wake deadline l with
  | case1 deadline l early now left note hswept rest ih =>
    intro m h
    obtain ⟨hleft, hnote⟩ := h.sweepNoted true now threshold
    rw [hswept] at hleft hnote
    have hrest := ih _ hleft
    rw [fireUntil, if_pos early]
    exact ⟨hrest.deadline, hrest.ledger, congrArg₂ List.cons hnote hrest.notes⟩
  | case2 deadline l late =>
    intro m h
    rw [fireUntil, if_neg late]
    exact ⟨rfl, h, rfl⟩

end Timer

namespace Keeper

/-- Keepers at the same clock, with the same timer and the same entries. -/
structure Same (k k' : Keeper) : Prop where
  clock : k.clock = k'.clock
  timer : k.timer = k'.timer
  ledger : k.ledger.Same k'.ledger

/-- Keepers that are the same, and the same notes. -/
structure Agree (result other : Keeper × List Note) : Prop where
  keeper : result.1.Same other.1
  notes : result.2.map Note.ordered = other.2.map Note.ordered

variable {k k' : Keeper}

theorem agree_afterTicks (h : k.Same k') {ticks other : Ticks} (hticks : ticks.Same other) :
    Agree (k.afterTicks ticks, ticks.notes) (k'.afterTicks other, other.notes) := by
  refine ⟨⟨h.clock, ?_, hticks.ledger⟩, hticks.notes⟩
  simp only [afterTicks, h.timer, hticks.deadline]

theorem agree_attend (h : k.Same k') (deadline : Nat) :
    Agree (k.attend deadline) (k'.attend deadline) := by
  rw [attend_eq, attend_eq, ← h.timer]
  split
  · simp only [fire, ← h.timer, ← h.clock]
    exact agree_afterTicks h (Timer.same_fireDue _ h.ledger)
  · refine ⟨⟨h.clock, ?_, h.ledger⟩, rfl⟩
    simp only [ended, h.timer]

theorem agree_run (h : k.Same k') : Agree k.run k'.run := by
  simp only [run, ← h.timer, ← h.clock]
  cases k.timer.phase with
  | ended => exact ⟨h, rfl⟩
  | unstarted =>
    obtain ⟨hkeeper, hnotes⟩ := agree_attend h k.clock
    exact ⟨hkeeper, congrArg (_ :: ·) hnotes⟩
  | waiting deadline => exact agree_attend h deadline

theorem agree_tickUntil (h : k.Same k') (wake : Nat) : Agree (k.tickUntil wake) (k'.tickUntil wake) := by
  simp only [tickUntil, ← h.timer]
  cases k.timer.phase with
  | waiting deadline => exact agree_afterTicks h (Timer.same_fireUntil _ h.ledger)
  | _ => exact ⟨h, rfl⟩

theorem agree_sleep (h : k.Same k') (span : Nat) : Agree (k.sleep span) (k'.sleep span) := by
  simp only [sleep, ← h.clock]
  split
  · exact ⟨h, rfl⟩
  · obtain ⟨hstarted, hnotes⟩ := agree_run h
    obtain ⟨hticked, hmore⟩ :=
      agree_tickUntil hstarted (Time.ceilMs (k.clock + min span Time.longestWait))
    refine ⟨⟨rfl, hticked.timer, hticked.ledger⟩, ?_⟩
    rw [List.map_append, List.map_append, hnotes, hmore]

theorem agree_jump (h : k.Same k') (span : Nat) : Agree (k.jump span) (k'.jump span) := by
  simp only [jump]
  exact agree_run ⟨congrArg (· + span) h.clock, h.timer, h.ledger⟩

theorem same_stop (h : k.Same k') : k.stop.Same k'.stop :=
  ⟨h.clock, by simp only [stop, h.timer], h.ledger⟩

/-- A sweep outside the schedule removes as many. -/
theorem same_sweep (h : k.Same k') :
    let swept := k.sweep k.timer.threshold
    let swept' := k'.sweep k'.timer.threshold
    swept.1.Same swept'.1 ∧ swept.2.1 = swept'.2.1 ∧ swept.2.2.ordered = swept'.2.2.ordered := by
  simp only [sweep, sweepAsOf, ← h.clock, ← h.timer]
  obtain ⟨hleft, hnote⟩ := h.ledger.sweepNoted false k.clock k.timer.threshold
  exact ⟨⟨rfl, rfl, hleft⟩, by rw [h.ledger.size, hleft.size], hnote⟩

end Keeper

/-! ## The same replies -/

namespace Tracker

/-- What a request finds. -/
def finding? (t : Tracker) : Request → Option Finding
  | .command command => (t.perform command).finding
  | .jump _ | .stop | .shutdown => none

/-- What whoever makes a request gets to see of it. -/
@[ext]
structure Reply where
  halt : Option Halt
  finding : Option Finding
  notes : List Note
deriving DecidableEq, Repr

def reply (t : Tracker) (request : Request) : Reply where
  halt := t.halt? request
  finding := t.finding? request
  notes := (t.serve request).2.map Note.ordered

/-- The replies to requests that are served in order. -/
def replies : List Request → Tracker → List Reply
  | [], _ => []
  | request :: requests, t => t.reply request :: replies requests (t.serve request).1

/-- Trackers that are the same, and have the same timer. -/
structure InStep (t u : Tracker) : Prop extends t.Same u where
  timer : t.keeper.timer = u.keeper.timer

variable {t u : Tracker}

theorem InStep.keeper (h : t.InStep u) : t.keeper.Same u.keeper := ⟨h.clock, h.timer, h.ledger⟩

/-- What keepers do that agree leaves trackers in step. -/
theorem InStep.keep (h : t.InStep u) {result other : Keeper × List Note}
    (hagree : Keeper.Agree result other) : (t.keep result).1.InStep (u.keep other).1 :=
  ⟨⟨h.listener, hagree.keeper.clock, hagree.keeper.ledger⟩, hagree.keeper.timer⟩

theorem inStep_change (h : t.InStep u) (depth : Nat) (turn : Turn) (filter : String) :
    (t.change depth turn filter).tracker.InStep (u.change depth turn filter).tracker :=
  ⟨(same_change h.toSame depth turn filter).tracker, by rw [timer_change, timer_change, h.timer]⟩

/-- Trackers in step stay so whatever is asked for, and give the same reply. -/
theorem inStep_serve (h : t.InStep u) (request : Request) :
    (t.serve request).1.InStep (u.serve request).1 ∧ t.reply request = u.reply request := by
  match request with
  | .command (.subscribe filter) =>
    have hchange := same_change h.toSame nestingLimit .first filter
    exact ⟨inStep_change h _ .first filter,
      Reply.ext hchange.halt rfl (congrArg (List.map _) hchange.notes)⟩
  | .command (.unsubscribe filter) =>
    have hchange := same_change h.toSame nestingLimit .last filter
    exact ⟨inStep_change h _ .last filter,
      Reply.ext hchange.halt rfl (congrArg (List.map _) hchange.notes)⟩
  | .command (.query topic) =>
    have hfound := h.hasAudience topic
    exact ⟨h, Reply.ext rfl (congrArg (fun found => some (Finding.subscribers topic found)) hfound)
      (congrArg (fun found => [Note.queried topic found]) hfound)⟩
  | .command .size =>
    have hfound := congrArg₂ (fun tracked active => some (Finding.size tracked active)) h.size
      h.ledger.active
    exact ⟨h, Reply.ext rfl hfound rfl⟩
  | .command .sweep =>
    obtain ⟨hkeeper, hremoved, hnote⟩ := Keeper.same_sweep h.keeper
    exact ⟨⟨⟨h.listener, hkeeper.clock, hkeeper.ledger⟩, hkeeper.timer⟩,
      Reply.ext rfl (congrArg (some ∘ Finding.swept) hremoved) (congrArg ([·]) hnote)⟩
  | .command (.sleep span) =>
    have hagree := Keeper.agree_sleep h.keeper span
    exact ⟨h.keep hagree, Reply.ext rfl rfl hagree.notes⟩
  | .jump span =>
    have hagree := Keeper.agree_jump h.keeper span
    exact ⟨h.keep hagree, Reply.ext rfl rfl hagree.notes⟩
  | .stop =>
    have hsame := Keeper.same_stop h.keeper
    exact ⟨⟨⟨h.listener, hsame.clock, hsame.ledger⟩, hsame.timer⟩, rfl⟩
  | .shutdown =>
    have hagree := Keeper.agree_run (Keeper.same_stop h.keeper)
    exact ⟨h.keep hagree, Reply.ext rfl rfl hagree.notes⟩

/-- Trackers in step reply the same to the same requests, and note the same. -/
theorem inStep_run (h : t.InStep u) (requests : List Request) :
    (t.run requests).1.InStep (u.run requests).1 ∧ t.replies requests = u.replies requests ∧
      (t.run requests).2.map Note.ordered = (u.run requests).2.map Note.ordered := by
  induction requests generalizing t u with
  | nil => exact ⟨h, rfl, rfl⟩
  | cons request requests ih =>
    obtain ⟨hserve, hreply⟩ := inStep_serve h request
    obtain ⟨hrun, hreplies, hnotes⟩ := ih hserve
    refine ⟨hrun, congrArg₂ List.cons hreply hreplies, ?_⟩
    simp only [run, List.map_append, hnotes]
    exact congrArg (· ++ _) (congrArg Reply.notes hreply)

/-! ## Requests while the clock stands still -/

/-- The calls of a change, and then those that the reaction goes on with unless the change has come
to a halt. -/
theorem still_then {changed : Changed} {events more : List Event} (h : Still t.clock events)
    (clock : changed.tracker.clock = t.clock) (hmore : Still changed.tracker.clock more) :
    Still t.clock (events ++ match changed.halt with
      | some _ => []
      | none => more) := by
  refine still_append.2 ⟨h, ?_⟩
  cases changed.halt with
  | some _ => exact still_nil _
  | none => rwa [clock] at hmore

theorem still_reactionCalls {change : Turn → String → Tracker → Changed}
    {calls : Turn → String → Tracker → List Event}
    (clock : ∀ turn filter t, (change turn filter t).tracker.clock = t.clock)
    (h : ∀ turn filter t, Still t.clock (calls turn filter t)) (reaction : Reaction) (t : Tracker) :
    Still t.clock (reactionCalls change calls reaction t) := by
  induction reaction generalizing t with
  | done | abort => exact still_nil _
  | note remark next ih => exact ih t
  | ask topic next ih => exact ih _ t
  | subscribe filter next ih => exact still_then (h .first filter t) (clock .first filter t) (ih _)
  | unsubscribe filter next ih => exact still_then (h .last filter t) (clock .last filter t) (ih _)

theorem still_calls (depth : Nat) (turn : Turn) (filter : String) (t : Tracker) :
    Still t.clock (t.calls depth turn filter) := by
  induction depth generalizing turn filter t with
  | zero => exact still_nil _
  | succ depth ih =>
    have hclock : (t.count turn filter).1.clock = t.clock := by cases turn <;> rfl
    simp only [calls]
    refine List.forall_mem_cons.2 ⟨⟨turn, filter, _, rfl⟩, ?_⟩
    split
    · -- The listener's calls come when its filter has been counted, at the same clock.
      have hcalls := still_reactionCalls (clock_change depth) ih
        (t.listener.react ⟨turn, filter⟩) (t.count turn filter).1
      rwa [hclock] at hcalls
    · exact still_nil _

/-- What becomes of a tracker while its clock stands still. -/
structure Stays (t : Tracker) (after : Tracker) (events : List Event) : Prop where
  clock : after.clock = t.clock
  timer : after.keeper.timer = t.keeper.timer
  still : Still t.clock events

theorem stays_serve (t : Tracker) {request : Request} (h : request.isUpkeep = false) :
    t.Stays (t.serve request).1 (t.events request) := by
  match request with
  | .command (.subscribe filter) =>
    exact ⟨clock_change .., timer_change .., still_calls nestingLimit .first filter t⟩
  | .command (.unsubscribe filter) =>
    exact ⟨clock_change .., timer_change .., still_calls nestingLimit .last filter t⟩
  | .command (.query _) | .command .size => exact ⟨rfl, rfl, still_nil _⟩

theorem stays_run (t : Tracker) {requests : List Request}
    (h : ∀ request ∈ requests, request.isUpkeep = false) :
    t.Stays (t.run requests).1 (t.history requests) := by
  induction requests generalizing t with
  | nil => exact ⟨rfl, rfl, still_nil _⟩
  | cons request requests ih =>
    obtain ⟨hrequest, hrequests⟩ := List.forall_mem_cons.1 h
    obtain ⟨hclock, htimer, hstill⟩ := stays_serve t hrequest
    obtain ⟨hclock', htimer', hstill'⟩ := ih (t.serve request).1 hrequests
    rw [hclock] at hclock' hstill'
    exact ⟨hclock', htimer'.trans htimer, still_append.2 ⟨hstill, hstill'⟩⟩

theorem sound_run (sound : t.ledger.Sound) (requests : List Request) :
    (t.run requests).1.ledger.Sound := by
  show (t.run requests).1.keeper.ledger.Sound
  rw [(accounts_run t requests).ledger]
  exact Ledger.sound_replay sound _

theorem find?_run_of_still {requests : List Request}
    (still : ∀ request ∈ requests, request.isUpkeep = false) (f : String) :
    (t.run requests).1.ledger.find? f =
      (callsOn f (t.history requests)).foldl (Entry.called t.clock f) (t.ledger.find? f) := by
  show (t.run requests).1.keeper.ledger.find? f = _
  rw [(accounts_run t requests).ledger]
  exact Ledger.find?_replay_of_still (stays_run t still).still t.ledger f

/-- Runs with the same calls on each filter leave trackers in step. -/
theorem inStep_run_of_callsOn (sound : t.ledger.Sound) {requests more : List Request}
    (still : ∀ request ∈ requests, request.isUpkeep = false)
    (still' : ∀ request ∈ more, request.isUpkeep = false)
    (same : ∀ f, callsOn f (t.history requests) = callsOn f (t.history more)) :
    (t.run requests).1.InStep (t.run more).1 := by
  have hone := stays_run t still
  have hother := stays_run t still'
  refine ⟨⟨?_, hone.clock.trans hother.clock.symm, ?_⟩, hone.timer.trans hother.timer.symm⟩
  · rw [listener_run, listener_run]
  · rw [Ledger.same_iff (sound_run sound _) (sound_run sound _)]
    intro f
    rw [find?_run_of_still still, find?_run_of_still still', same]

theorem turnsOf_turnedIn_run (sound : t.ledger.Sound) (requests : List Request) (f : String) :
    turnsOf f (turnedIn (t.run requests).2) =
      Turn.transitions (t.ledger.holders f) (callsOn f (t.history requests)) := by
  rw [(accounts_run t requests).told]
  exact Ledger.turnsOf_toldIn sound (accounts_run t requests).truthful f

/-! ## What that comes to -/

/-- Lets the clock move on without the timer getting to run, so that any number of its ticks may be
due. -/
def wait (span : Nat) (t : Tracker) : Tracker :=
  { t with keeper := { t.keeper with clock := t.keeper.clock + span } }

/-- The trackers that can be reached. -/
inductive Reachable : Tracker → Prop where
  | create (listener : Listener) (options : CleanupOptions) : Reachable (create listener options).1
  | serve {t : Tracker} (request : Request) : Reachable t → Reachable (t.serve request).1
  | wait {t : Tracker} (span : Nat) : Reachable t → Reachable (t.wait span)

theorem Reachable.sound (h : t.Reachable) : t.ledger.Sound := by
  induction h with
  | create => exact Ledger.sound_empty
  | @serve t request _ ih => exact sound_run ih [request]
  | wait _ _ ih => exact ih

/-- From any reachable tracker, two runs of subscriptions, their ends and queries that make the same
calls on each filter, in whatever order between filters, lead to the same entries: that of a filter,
with its holders and the instant since which it is idle, is what the calls on the filter make of it
one after another. The audience of each filter turns as those calls have it. Whatever is asked for
afterwards, sweeps and the passing of time included, both reply the same, down to the lines of the
log. The calls are those of the requests with any that the listener makes in turn; if it only
watches, it is enough that the requests on each filter are the same. -/
theorem interchange_run (reachable : t.Reachable) {requests more : List Request}
    (still : ∀ request ∈ requests ++ more, request.isUpkeep = false)
    (same : (∀ f, callsOn f (t.history requests) = callsOn f (t.history more)) ∨
      t.listener.Watches ∧
        ∀ f, requests.filterMap (·.turnOn? f) = more.filterMap (·.turnOn? f)) :
    let one := t.run requests
    let other := t.run more
    one.1.ledger.entries.Perm other.1.ledger.entries ∧
      (∀ f,
        one.1.ledger.find? f = other.1.ledger.find? f ∧
        one.1.ledger.find? f =
          (callsOn f (t.history requests)).foldl (Entry.called t.clock f) (t.ledger.find? f)) ∧
      (∀ f,
        turnsOf f (turnedIn one.2) = turnsOf f (turnedIn other.2) ∧
        turnsOf f (turnedIn one.2) =
          Turn.transitions (t.ledger.holders f) (callsOn f (t.history requests))) ∧
      ∀ later,
        one.1.replies later = other.1.replies later ∧
        (∀ level, logAt level (one.1.run later).2 = logAt level (other.1.run later).2) ∧
        (one.1.run later).1.isRunning = (other.1.run later).1.isRunning := by
  intro one other
  obtain ⟨hstill, hstill'⟩ := List.forall_mem_append.1 still
  have hcalls : ∀ f, callsOn f (t.history requests) = callsOn f (t.history more) := by
    rcases same with hcalls | ⟨hwatches, hrequests⟩
    · exact hcalls
    · intro f
      rw [callsOn_history_of_watches hwatches, callsOn_history_of_watches hwatches, hrequests]
  have hstep : one.1.InStep other.1 :=
    inStep_run_of_callsOn reachable.sound hstill hstill' hcalls
  have hturns := turnsOf_turnedIn_run reachable.sound requests
  refine ⟨hstep.ledger.perm, fun f => ⟨hstep.ledger.find? f, find?_run_of_still hstill f⟩,
    fun f => ⟨?_, hturns f⟩, fun later => ?_⟩
  · rw [hturns, turnsOf_turnedIn_run reachable.sound, hcalls]
  · obtain ⟨hlater, hreplies, hnotes⟩ := inStep_run hstep later
    refine ⟨hreplies, fun level => ?_, congrArg (·.isRunning) hlater.timer⟩
    rw [← logAt_map_ordered, hnotes, logAt_map_ordered]

/-- A listener that goes on to subscribe is told of one filter before another or after it, with a
tick overdue: the entries come in another order, and a sweep finds the same. -/
theorem interchange_of_listener_that_subscribes :
    let listener : Listener := .leaf fun transition =>
      if transition = ⟨.first, "a"⟩ then .subscribe "c" .done else .done
    let requests : List Request :=
      [.command (.subscribe "a"), .command (.subscribe "b"), .command (.unsubscribe "b")]
    let more : List Request :=
      [.command (.subscribe "b"), .command (.unsubscribe "b"), .command (.subscribe "a")]
    let t := (create listener ⟨0, 0⟩).1.wait (10 * Time.perSecond)
    t.Reachable ∧ (∀ request ∈ requests ++ more, request.isUpkeep = false) ∧
      (∀ f, callsOn f (t.history requests) = callsOn f (t.history more)) ∧
      (t.run requests).1.ledger ≠ (t.run more).1.ledger ∧
      (t.run more).1.ledger.find? "b" = some ⟨"b", 0, some (10 * Time.perSecond)⟩ ∧
      (t.run requests).1.replies [.command .sweep, .command .size] =
        (t.run more).1.replies [.command .sweep, .command .size] := by
  intro listener requests more t
  have hreachable : t.Reachable := .wait _ (.create listener ⟨0, 0⟩)
  have hstill : ∀ request ∈ requests ++ more, request.isUpkeep = false := by decide
  have hcalls (f : String) : callsOn f (t.history requests) = callsOn f (t.history more) := by
    have hhistory : t.history requests =
      [.call t.clock .first "a" true, .call t.clock .first "c" true, .call t.clock .first "b" true,
        .call t.clock .last "b" true] := rfl
    have hhistory' : t.history more =
      [.call t.clock .first "b" true, .call t.clock .last "b" true, .call t.clock .first "a" true,
        .call t.clock .first "c" true] := rfl
    rw [hhistory, hhistory']
    by_cases hb : "b" = f
    · subst hb
      rfl
    · simp only [callsOn_cons_call, if_neg hb]
  obtain ⟨-, -, -, hlater⟩ := interchange_run hreachable hstill (.inl hcalls)
  exact ⟨hreachable, hstill, hcalls, by decide, by decide, (hlater _).1⟩

end Tracker

end Audience
