import Audience.Broker
import Audience.CommandLine

/-!
# Accepted settings

Settings are `Accepted` if a document, a file with an environment or an
environment alone gives them. All three ways end in the same check, which lets
through what is `Sound` and nothing else (`fault?_eq_none_iff`): a span to sweep
after, a listener, an address that splits for each listener that is on, and a
level with a name. Everything that starts from accepted settings relies on that
and on no more:

* `Sound.create_eq_ok`: a broker is made of them, with a timer of their interval;
* `Sound.exists_level`: the log has the level that they name, unless another is
  asked for.

The check looks at nothing else (`fault?_congr`).
-/

namespace Audience

namespace Settings

/-- Settings without a fault. -/
structure Sound (s : Settings) : Prop where
  level : ∃ l : LogLevel, Text.lowercase s.level = l.name
  interval : 0 < s.cleanup.interval
  listening : s.broker.websocketEnabled = true ∨ s.broker.tcpEnabled = true
  websocket : s.broker.websocketEnabled = true →
    ∃ address, Address.ofText s.broker.websocketAddress = .ok address
  tcp : s.broker.tcpEnabled = true → ∃ address, Address.ofText s.broker.tcpAddress = .ok address

/-! ## The check -/

theorem fault?_eq_none_iff_exists {address : String} :
    Address.fault? address = none ↔ ∃ split, Address.ofText address = .ok split := by
  unfold Address.fault?
  cases Address.ofText address <;> simp

theorem websocketFault?_eq_none_iff {o : ListenOptions} : websocketFault? o = none ↔
    (o.websocketEnabled = true → ∃ address, Address.ofText o.websocketAddress = .ok address) := by
  rw [websocketFault?, ← fault?_eq_none_iff_exists]
  cases o.websocketEnabled <;> simp

theorem tcpFault?_eq_none_iff {o : ListenOptions} : tcpFault? o = none ↔
    (o.tcpEnabled = true → ∃ address, Address.ofText o.tcpAddress = .ok address) := by
  rw [tcpFault?, ← fault?_eq_none_iff_exists]
  cases o.tcpEnabled <;> simp

/-- Options are usable if a listener is on and the addresses of those that are on split. -/
theorem optionsFault?_eq_none_iff {o : ListenOptions} : optionsFault? o = none ↔
    (o.websocketEnabled = true ∨ o.tcpEnabled = true) ∧
      (o.websocketEnabled = true → ∃ address, Address.ofText o.websocketAddress = .ok address) ∧
      (o.tcpEnabled = true → ∃ address, Address.ofText o.tcpAddress = .ok address) := by
  rw [← websocketFault?_eq_none_iff, ← tcpFault?_eq_none_iff, optionsFault?]
  split
  · next h => simp_all
  · next h =>
    have hlistening : o.websocketEnabled = true ∨ o.tcpEnabled = true := by
      cases hw : o.websocketEnabled <;> simp_all
    cases websocketFault? o <;> simp [hlistening]

theorem logLevel?_isSome_iff {s : Settings} :
    s.logLevel?.isSome ↔ ∃ l : LogLevel, Text.lowercase s.level = l.name := by
  simp only [Option.isSome_iff_exists, logLevel?, LogLevel.ofName?_eq_some_iff]

/-- The check lets through what is sound. -/
theorem fault?_eq_none_iff {s : Settings} : s.fault? = none ↔ s.Sound := by
  have hsound : s.Sound ↔ s.logLevel?.isSome ∧ 0 < s.cleanup.interval ∧
      optionsFault? s.broker = none := by
    rw [optionsFault?_eq_none_iff, logLevel?_isSome_iff]
    exact ⟨fun h => ⟨h.level, h.interval, h.listening, h.websocket, h.tcp⟩,
      fun ⟨level, interval, listening, websocket, tcp⟩ =>
        ⟨level, interval, listening, websocket, tcp⟩⟩
  rw [hsound, fault?]
  split
  · next h => simp [Option.isNone_iff_eq_none.1 h]
  · next h =>
    have hlevel : s.logLevel?.isSome := by simpa [Option.isSome_iff_ne_none] using h
    split
    · next hzero => simp [hzero]
    · next hpos => simp [hlevel, Nat.pos_of_ne_zero hpos]

/-- Settings that are the same where the check looks: an address counts only for a listener that is
on. -/
structure SameChecked (s t : Settings) : Prop where
  level : s.level = t.level
  interval : s.cleanup.interval = t.cleanup.interval
  websocketEnabled : s.broker.websocketEnabled = t.broker.websocketEnabled
  tcpEnabled : s.broker.tcpEnabled = t.broker.tcpEnabled
  websocketAddress : s.broker.websocketEnabled = true →
    s.broker.websocketAddress = t.broker.websocketAddress
  tcpAddress : s.broker.tcpEnabled = true → s.broker.tcpAddress = t.broker.tcpAddress

theorem fault?_congr {s t : Settings} (h : SameChecked s t) : s.fault? = t.fault? := by
  have hwebsocket : websocketFault? s.broker = websocketFault? t.broker := by
    rw [websocketFault?, websocketFault?, ← h.websocketEnabled]
    split
    · next hon => rw [h.websocketAddress hon]
    · rfl
  have htcp : tcpFault? s.broker = tcpFault? t.broker := by
    rw [tcpFault?, tcpFault?, ← h.tcpEnabled]
    split
    · next hon => rw [h.tcpAddress hon]
    · rfl
  have hoptions : optionsFault? s.broker = optionsFault? t.broker := by
    rw [optionsFault?, optionsFault?, h.websocketEnabled, h.tcpEnabled, hwebsocket, htcp]
  rw [fault?, fault?, logLevel?, logLevel?, h.level, h.interval, hoptions]

/-! ## The three ways in -/

/-- Settings that a document gives, or a file and an environment, or an environment alone. -/
inductive Accepted (s : Settings) : Prop where
  | parsed (content : String) (ok : parse content = .ok s)
  | loaded (env : Environment) (file : FileContent) (ok : load env file = .ok s)
  | ofEnvironment (env : Environment) (ok : Settings.ofEnvironment env = .ok s)

theorem sound_of_checked {s t : Settings} (h : checked t = .ok s) : s.Sound := by
  obtain ⟨rfl, hnone⟩ := checked_eq_ok_iff.1 h
  exact fault?_eq_none_iff.1 hnone

theorem sound_of_layered {env : Environment} {file : Toml.Entries} {s : Settings}
    (h : layered env file = .ok s) : s.Sound := by
  simp only [layered] at h
  split at h
  · exact sound_of_checked h
  · cases h

theorem sound_of_load {env : Environment} {file : FileContent} {s : Settings}
    (h : load env file = .ok s) : s.Sound := by
  unfold load at h
  split at h
  · exact sound_of_layered h
  · cases h
  · split at h
    · unfold ofText at h
      split at h
      · exact sound_of_layered h
      · cases h
    · cases h

theorem Accepted.sound {s : Settings} (h : s.Accepted) : s.Sound := by
  cases h with
  | parsed content ok =>
    unfold parse at ok
    split at ok
    · exact sound_of_checked ok
    · cases ok
  | loaded env file ok => exact sound_of_load ok
  | ofEnvironment env ok => exact sound_of_layered ok

/-! ## What starts from them -/

/-- A broker is made of sound settings, with a timer of their interval, raised to the least there
is. -/
theorem Sound.create_eq_ok {s : Settings} (h : s.Sound) (engine : Engine) (listener : Listener) :
    ∃ b notes, Broker.create engine listener s.broker s.cleanup = .ok (b, notes) ∧
      b.tracker.keeper.timer.period = max s.cleanup.interval Time.perMillisecond := by
  have hoptions : optionsFault? s.broker = none :=
    optionsFault?_eq_none_iff.2 ⟨h.listening, h.websocket, h.tcp⟩
  simp only [Broker.create, hoptions]
  exact ⟨_, _, rfl, rfl⟩

/-- Sound settings name a level, and the log has it unless another is asked for. -/
theorem Sound.exists_level {s : Settings} (h : s.Sound) : ∃ l : LogLevel,
    Text.lowercase s.level = l.name ∧ ∀ a, Invocation.level a s = a.level.getD l := by
  obtain ⟨l, hname⟩ := h.level
  refine ⟨l, hname, fun a => ?_⟩
  rw [Invocation.level, logLevel?, LogLevel.ofName?_eq_some_iff.2 hname, Option.getD_some]

/-- Whatever way settings are accepted, they are sound, a broker is made of them for every engine,
and the log has the level that they name. And the check looks only at what it is about: not at the
address of a listener that is off, the sizes or the threshold. -/
theorem usable_of_accepted :
    (∀ s : Settings, s.Accepted →
      s.Sound ∧
      (∀ engine listener, ∃ b notes,
        Broker.create engine listener s.broker s.cleanup = .ok (b, notes) ∧
          b.tracker.keeper.timer.period = max s.cleanup.interval Time.perMillisecond) ∧
      ∃ l : LogLevel, Text.lowercase s.level = l.name ∧
        ∀ a, Invocation.level a s = a.level.getD l) ∧
    ∀ s t : Settings, SameChecked s t → s.fault? = t.fault? :=
  ⟨fun _ h => ⟨h.sound, h.sound.create_eq_ok, h.sound.exists_level⟩, fun _ _ => fault?_congr⟩

/-- A document that names its level in capitals and turns the websocket off. An address there that
does not split, another size and another threshold are as good. -/
theorem usable_of_tcp_document :
    let content :=
      "[log]\nlevel = \"WARN\"\n[broker]\nwebsocket_enabled = false\ntcp_enabled = true\n"
    let s : Settings := {
      level := "WARN"
      broker := { websocketEnabled := false, tcpEnabled := true } }
    let t : Settings := { s with
      broker := { s.broker with websocketAddress := "[", bufferSize := 1 }
      cleanup := { s.cleanup with threshold := 0 } }
    parse content = .ok s ∧
      (∃ b notes, Broker.create {} Invocation.announcer s.broker s.cleanup = .ok (b, notes) ∧
        b.tracker.keeper.timer.period = 60 * 1000000000) ∧
      Invocation.level {} s = .warn ∧
      t.fault? = none := by
  intro content s t
  have hread : Toml.read? .first content = some [
      ("log", .table .header [("level", .text "WARN")]),
      ("broker", .table .header [("websocket_enabled", .boolean false),
        ("tcp_enabled", .boolean true)])] := by
    unfold content
    rfl
  have hparsed : parse content = .ok s := by
    rw [parse, hread]
    rfl
  obtain ⟨hsound, hcreated, l, hname, hlevel⟩ := usable_of_accepted.1 s (.parsed content hparsed)
  obtain rfl : l = .warn := by
    cases l <;> first | rfl | exact absurd hname (by decide)
  have hsame : SameChecked t s := ⟨rfl, rfl, rfl, rfl, nofun, fun _ => rfl⟩
  obtain ⟨b, notes, hbroker, hperiod⟩ := hcreated {} Invocation.announcer
  refine ⟨hparsed, ⟨b, notes, hbroker, hperiod.trans (by decide)⟩, hlevel {}, ?_⟩
  rw [usable_of_accepted.2 t s hsame, fault?_eq_none_iff.2 hsound]

end Settings

end Audience
