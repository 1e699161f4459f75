import PageLoad.Crawl.Report
import PageLoad.Proofs.Text.JsonNumber
import PageLoad.Proofs.Text.Lines
import Mathlib.Data.List.Forall2

/-!
The lines of events that are JSON. There is one for each event, and it says what the event does.
-/

namespace PageLoad.Crawl
open Number Text

/-- What an event says, but for how long something took. -/
inductive Fact where
  | roundStart (rank url : String)
  | task (id parentId : String) (depth : Nat) (contentType : String) (bytes : Nat) (url : String)
  | roundEnd (rank url : String) (tasks bytes : Nat)
  deriving DecidableEq, Repr

namespace Fact

def text? (members : List (String × Json.Value)) (name : String) : Option String :=
  match members.lookup name with
  | some (.text value) => some value
  | _ => none

def count? (members : List (String × Json.Value)) (name : String) : Option Nat :=
  match members.lookup name with
  | some (.number literal) => readDigits? literal.toList
  | _ => none

def ofMembers? (members : List (String × Json.Value)) : Option Fact := do
  let tag ← text? members "event"
  if tag = "round_start" then
    return .roundStart (← text? members "rank") (← text? members "url")
  else if tag = "task" then
    return .task (← text? members "id") (← text? members "parent_id") (← count? members "depth")
      (← text? members "content_type") (← count? members "bytes") (← text? members "url")
  else if tag = "round_end" then
    return .roundEnd (← text? members "rank") (← text? members "url") (← count? members "tasks")
      (← count? members "bytes")
  else none

end Fact

def secondsValue (seconds : Double) : Json.Value := (seconds.data?.map Json.Value.number).getD .null

namespace Event

def fact : Event → Fact
  | .roundStart rank url => .roundStart rank url
  | .task report => .task report.id report.parentId report.depth report.contentType report.bytes report.url
  | .roundEnd summary => .roundEnd summary.rank summary.url summary.tasks summary.bytes

def members : Event → List (String × Json.Value)
  | .roundStart rank url => [("event", .text "round_start"), ("rank", .text rank), ("url", .text url)]
  | .task report =>
    [("event", .text "task"), ("id", .text report.id), ("parent_id", .text report.parentId),
      ("depth", .number (toString report.depth)), ("content_type", .text report.contentType),
      ("bytes", .number (toString report.bytes)), ("elapsed", secondsValue report.elapsed),
      ("url", .text report.url)]
  | .roundEnd summary =>
    [("event", .text "round_end"), ("rank", .text summary.rank), ("url", .text summary.url),
      ("elapsed", secondsValue summary.elapsed), ("tasks", .number (toString summary.tasks)),
      ("bytes", .number (toString summary.bytes))]

end Event

theorem json_secondsValue (seconds : Double) : (secondsValue seconds).json = jsonSeconds seconds := by
  rw [secondsValue, jsonSeconds]
  cases seconds.data? <;> rfl

theorem isProper_secondsValue (seconds : Double) : (secondsValue seconds).IsProper := by
  rw [secondsValue]
  cases data : seconds.data? with
  | none => trivial
  | some literal => exact Json.isProper_data? data

namespace Event

theorem json_eq_object (event : Event) :
    event.json = Json.object (event.members.map fun each => (each.1, each.2.json)) := by
  cases event with
  | roundStart => rfl
  | task report =>
    simp only [members, List.map_cons, List.map_nil, json_secondsValue]
    rfl
  | roundEnd summary =>
    simp only [members, List.map_cons, List.map_nil, json_secondsValue]
    rfl

theorem isProper_members (event : Event) : ∀ each ∈ event.members, each.2.IsProper := by
  have text (value : String) : (Json.Value.text value).IsProper := trivial
  cases event <;>
    simp only [members, List.forall_mem_cons, List.not_mem_nil, false_imp_iff, implies_true, and_true,
      text, Json.isProper_toString, isProper_secondsValue]

theorem nodup_members (event : Event) : (event.members.map (·.1)).Nodup := by
  cases event <;> simp [members]

theorem ofMembers?_members (event : Event) : Fact.ofMembers? event.members = some event.fact := by
  have counted {members : List (String × Json.Value)} {name : String} {n : Nat}
      (found : members.lookup name = some (.number (toString n))) : Fact.count? members name = some n := by
    rw [Fact.count?, found]
    exact readDigits?_toString n
  cases event with
  | roundStart => rfl
  | task report =>
    have depth : Fact.count? (members (.task report)) "depth" = some report.depth := counted rfl
    have bytes : Fact.count? (members (.task report)) "bytes" = some report.bytes := counted rfl
    rw [Fact.ofMembers?, depth, bytes]
    rfl
  | roundEnd summary =>
    have tasks : Fact.count? (members (.roundEnd summary)) "tasks" = some summary.tasks := counted rfl
    have bytes : Fact.count? (members (.roundEnd summary)) "bytes" = some summary.bytes := counted rfl
    rw [Fact.ofMembers?, tasks, bytes]
    rfl

/-- Whether a line, read as JSON, says what an event does. -/
structure Carries (event : Event) (line : String) : Prop where
  printable : ∀ c ∈ line.toList, 0x20 ≤ c.toNat
  decoded : ∃ members, Json.readObject? line.toList = some members ∧ (members.map (·.1)).Nodup ∧
    Fact.ofMembers? members = some event.fact

theorem carries_json (event : Event) : Carries event event.json := by
  rw [json_eq_object]
  exact ⟨Json.printable_object event.isProper_members, event.members,
    Json.readObject?_object event.isProper_members, event.nodup_members, event.ofMembers?_members⟩

namespace Carries
variable {event other : Event} {line : String}

theorem printed (carries : Carries event line) : Printable line := by
  have control {c : Char} (low : c.toNat < 0x20) : c ∉ line.toList :=
    fun member => absurd (carries.printable c member) (Nat.not_le.mpr low)
  exact ⟨control (by decide), fun last => control (by decide) (List.mem_of_getLast? last)⟩

theorem unique (first : Carries event line) (second : Carries other line) : event.fact = other.fact := by
  obtain ⟨members, read, -, known⟩ := first.decoded
  obtain ⟨_, again, -, knownOther⟩ := second.decoded
  cases read.symm.trans again
  exact Option.some.inj (known.symm.trans knownOther)

end Carries

theorem Carries.unique_all {events others : List Event} {lines : List String}
    (first : List.Forall₂ Carries events lines) (second : List.Forall₂ Carries others lines) :
    events.map fact = others.map fact := by
  induction first generalizing others with
  | nil =>
    cases second
    rfl
  | cons carries _ ih =>
    cases second with
    | cons carriesOther later =>
      rw [List.map_cons, List.map_cons, carries.unique carriesOther, ih later]

theorem json_text_toList (events : List Event) :
    (Event.text .json events).toList = (events.map (·.json)).flatMap fun line => line.toList ++ ['\n'] := by
  simp [Event.text, Event.line, String.toList_join, List.flatMap_map]

theorem ofBytes_json (events : List Event) :
    Lines.ofBytes (Utf8.encode (Event.text .json events).toList) = ⟨events.map (·.json), none⟩ := by
  rw [json_text_toList]
  refine Lines.ofBytes_printed _ fun line printed => ?_
  obtain ⟨event, -, rfl⟩ := List.mem_map.mp printed
  exact (carries_json event).printed

/-- The JSON text of some events has a line for each, in order, that repeats what the event says. Events
that differ in this have another text. -/
theorem json_carries (events : List Event) :
    (∃ lines, Lines.ofBytes (Utf8.encode (Event.text .json events).toList) = ⟨lines, none⟩ ∧
      List.Forall₂ Carries events lines) ∧
    ∀ others : List Event, events.map fact ≠ others.map fact →
      Event.text .json events ≠ Event.text .json others := by
  have carried (events : List Event) : List.Forall₂ Carries events (events.map (·.json)) := by
    rw [List.forall₂_map_right_iff, List.forall₂_same]
    exact fun event _ => carries_json event
  refine ⟨⟨_, ofBytes_json events, carried events⟩, fun others differ same => differ ?_⟩
  have lines := (ofBytes_json events).symm.trans (same ▸ ofBytes_json others)
  have carriedOther := carried others
  rw [← (Lines.mk.inj lines).1] at carriedOther
  exact Carries.unique_all (carried events) carriedOther

def brokenRound (escaped : Bool) : List Event :=
  let rank := if escaped then "1\\n\\u0001" else "1\n\x01"
  let url := if escaped then "http://h/\\\"é" else "http://h/\"é"
  [.roundStart rank url, .task ⟨"a", "-", 0, "text/html", 7, .finite false 1, url⟩,
    .roundEnd ⟨rank, url, .finite false (3 * unitsPerOne), 1, 7⟩]

theorem json_carries_broken : (brokenRound false).map fact ≠ (brokenRound true).map fact ∧
    Event.text .json (brokenRound false) ≠ Event.text .json (brokenRound true) := by
  have differ : (brokenRound false).map fact ≠ (brokenRound true).map fact := by decide
  exact ⟨differ, (json_carries (brokenRound false)).2 (brokenRound true) differ⟩

end Event

end PageLoad.Crawl
