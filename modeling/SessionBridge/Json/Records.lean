import SessionBridge.Bus.Config
import SessionBridge.Json.Form
import SessionBridge.Registry
import SessionBridge.Session.Transition
import SessionBridge.Transcript.Entry

/-! The JSON forms of the session, the transcript and the bus. Numbers and ids are bare numbers,
records are objects with every field, and a case with a payload is an object with one member. -/
namespace SessionBridge

instance : JsonForm SessionId where
  toJson id := toJson id.value
  ofJson? j := (ofJson? j).map SessionId.mk

instance : JsonForm Timestamp where
  toJson t := toJson t.millis
  ofJson? j := (ofJson? j).map Timestamp.mk

instance : JsonForm SessionMode where
  toJson mode := .string mode.name
  ofJson? := Json.bareCase? [("Owner", .owner), ("Joiner", .joiner)]

def Origin.name : Origin → String
  | system => "System"
  | inbound => "Inbound"
  | outbound => "Outbound"

instance : JsonForm Origin where
  toJson origin := .string origin.name
  ofJson? := Json.bareCase? [("System", .system), ("Inbound", .inbound), ("Outbound", .outbound)]

instance : JsonForm InformType where
  toJson
    | .error => .string "Error"
    | .remote => .string "Remote"
    | .status => .string "Status"
    | .system => .string "System"
    | .other code => .object [("Other", toJson code)]
  ofJson? j :=
    match j.case? with
    | some ("Other", some code) => (ofJson? code).map InformType.other
    | _ => j.bareCase?
        [("Error", .error), ("Remote", .remote), ("Status", .status), ("System", .system)]

/-- The name of the operation as a case, which differs from the name of the call. -/
def NativeOperation.caseName : NativeOperation → String
  | registerCallbacks => "RegisterCallbacks"
  | clearCallbacks => "ClearCallbacks"
  | advertise => "Advertise"
  | discoverAndJoin => "DiscoverAndJoin"
  | leave => "Leave"
  | send => "Send"

instance : JsonForm NativeOperation where
  toJson o := .string o.caseName
  ofJson? := Json.bareCase?
    [("RegisterCallbacks", .registerCallbacks), ("ClearCallbacks", .clearCallbacks),
      ("Advertise", .advertise), ("DiscoverAndJoin", .discoverAndJoin), ("Leave", .leave),
      ("Send", .send)]

instance : JsonForm Session where
  toJson s := .object [("mode", toJson s.mode), ("id", toJson s.id), ("name", toJson s.name),
    ("handle", toJson s.handle), ("established_at", toJson s.establishedAt)]
  ofJson? j := do
    let f ← j.fields? ["mode", "id", "name", "handle", "established_at"]
    some ⟨← Json.field? f "mode", ← Json.field? f "id", ← Json.field? f "name",
      ← Json.field? f "handle", ← Json.field? f "established_at"⟩

instance : JsonForm Attempt where
  toJson a := .object [("mode", toJson a.mode), ("session_name", toJson a.sessionName),
    ("handle", toJson a.handle), ("session_id", toJson a.sessionId),
    ("joined_early", toJson a.joinedEarly), ("started_at", toJson a.startedAt)]
  ofJson? j := do
    let f ← j.fields?
      ["mode", "session_name", "handle", "session_id", "joined_early", "started_at"]
    some ⟨← Json.field? f "mode", ← Json.field? f "session_name", ← Json.field? f "handle",
      ← Json.optionalField? f "session_id", ← Json.field? f "joined_early",
      ← Json.field? f "started_at"⟩

instance : JsonForm SessionState where
  toJson
    | .disconnected => .string "Disconnected"
    | .connecting attempt => .object [("Connecting", toJson attempt)]
    | .owner session => .object [("Owner", toJson session)]
    | .joined session => .object [("Joined", toJson session)]
  ofJson? j :=
    match j.case? with
    | some ("Connecting", some payload) => (ofJson? payload).map SessionState.connecting
    | some ("Owner", some payload) => (ofJson? payload).map SessionState.owner
    | some ("Joined", some payload) => (ofJson? payload).map SessionState.joined
    | _ => j.bareCase? [("Disconnected", .disconnected)]

instance : JsonForm Entry where
  toJson e := .object [("sequence", .integer e.sequence), ("timestamp", toJson e.timestamp),
    ("origin", toJson e.origin), ("inform_type", toJson e.kind), ("text", toJson e.text)]
  ofJson? j := do
    let f ← j.fields? ["sequence", "timestamp", "origin", "inform_type", "text"]
    let sequence ← f "sequence" >>= Json.natBelow? UInt64.size
    some ⟨⟨← Json.field? f "timestamp", ← Json.field? f "origin", ← Json.field? f "inform_type",
      ← Json.field? f "text"⟩, sequence⟩

instance : JsonForm Participant where
  toJson p := .object [("name", toJson p.name), ("joined_at", toJson p.joinedAt)]
  ofJson? j := do
    let f ← j.fields? ["name", "joined_at"]
    some ⟨← Json.field? f "name", ← Json.field? f "joined_at"⟩

instance : JsonForm AuditEntry where
  toJson a := .object [("timestamp", toJson a.timestamp), ("from_state", toJson a.fromState),
    ("to_state", toJson a.toState), ("event", toJson a.event)]
  ofJson? j := do
    let f ← j.fields? ["timestamp", "from_state", "to_state", "event"]
    some ⟨← Json.field? f "timestamp", ← Json.field? f "from_state", ← Json.field? f "to_state",
      ← Json.field? f "event"⟩

instance : JsonForm BusTarget where
  toJson t := .object [("interface_name", toJson t.interfaceName),
    ("name_prefix", toJson t.namePrefix), ("object_path", toJson t.objectPath),
    ("session_port", toJson t.sessionPort)]
  ofJson? j := do
    let f ← j.fields? ["interface_name", "name_prefix", "object_path", "session_port"]
    some ⟨← Json.field? f "interface_name", ← Json.field? f "name_prefix",
      ← Json.field? f "object_path", ← Json.field? f "session_port"⟩

instance : JsonForm BusConfig where
  toJson c := .object [("interface_name", toJson c.interfaceName),
    ("name_prefix", toJson c.namePrefix), ("object_path", toJson c.objectPath),
    ("session_port", toJson c.sessionPort), ("max_message_len", toJson c.maxMessageLength),
    ("event_buffer_size", toJson c.eventBufferSize)]
  ofJson? j := do
    let f ← j.fields? ["interface_name", "name_prefix", "object_path", "session_port",
      "max_message_len", "event_buffer_size"]
    some ⟨⟨← Json.field? f "interface_name", ← Json.field? f "name_prefix",
      ← Json.field? f "object_path", ← Json.field? f "session_port"⟩,
      ← Json.field? f "max_message_len", ← Json.field? f "event_buffer_size"⟩

end SessionBridge
