import SessionBridge.Json.Records

/-! Writing and reading back. The numbers of each width and the names of each choice come back as they
are, so records of them do: a record is read by the names of its fields, and a choice by its case. -/
namespace SessionBridge

abbrev Returns [JsonForm α] (a : α) : Prop :=
  ofJson? (toJson a) = some a

/-- Values are read back as they are, whether they were made here or read from some other JSON before. -/
class Faithful (α : Type) [JsonForm α] : Prop where
  returns : ∀ a : α, Returns a
  settles : ∀ (j : Json) (a : α), ofJson? j = some a → Returns a

/-- A record is read from every object that holds the fields it is written with. Their order does not
matter, nor what else is in the object. -/
def ReadsByName [JsonForm α] (a : α) : Prop :=
  ∃ fields, toJson a = .object fields ∧ (fields.map Prod.fst).Nodup ∧
    ∀ members : List (String × Json), (∀ f ∈ fields, members.lookup f.1 = some f.2) →
      ofJson? (.object members) = some a

def ReadsBare (α : Type) [JsonForm α] : Prop :=
  ∀ (a : α) (name : String), toJson a = .string name → ofJson? (.object [(name, .null)]) = some a

section

variable [JsonForm α]

theorem Faithful.of_returns (h : ∀ a : α, Returns a) : Faithful α :=
  ⟨h, fun _ a _ => h a⟩

theorem toJson_injective [Faithful α] {a b : α} (h : toJson a = toJson b) : a = b := by
  have hread : ofJson? (toJson a) = some b := h ▸ Faithful.returns b
  exact Option.some.inj ((Faithful.returns a).symm.trans hread)

theorem lookup_of_nodup {fields : List (String × Json)} (h : (fields.map Prod.fst).Nodup)
    {f : String × Json} (hmem : f ∈ fields) : fields.lookup f.1 = some f.2 := by
  induction fields with
  | nil => cases hmem
  | cons first fields ih =>
    obtain ⟨hfirst, hrest⟩ := List.nodup_cons.mp h
    rcases List.mem_cons.mp hmem with rfl | hmem
    · exact List.lookup_cons_self
    · have hne : (f.1 == first.1) = false :=
        beq_false_of_ne fun heq => hfirst (heq ▸ List.mem_map_of_mem hmem)
      rw [List.lookup_cons, hne]
      exact ih hrest hmem

theorem ReadsByName.returns {a : α} (h : ReadsByName a) : Returns a := by
  obtain ⟨fields, hjson, hnodup, hreads⟩ := h
  rw [Returns, hjson]
  exact hreads fields fun f hmem => lookup_of_nodup hnodup hmem

variable {members : List (String × Json)} {name : String}

theorem Json.field?_of_lookup [Faithful α] {a : α} (h : members.lookup name = some (toJson a)) :
    Json.field? (fun name => members.lookup name) name = some a := by
  rw [Json.field?, h]
  exact Faithful.returns a

theorem Json.optionalField?_of_lookup [Faithful α] {a : Option α} (hnull : ∀ a : α, toJson a ≠ .null)
    (h : members.lookup name = some (toJson a)) :
    Json.optionalField? (fun name => members.lookup name) name = some a := by
  unfold Json.optionalField?
  dsimp only
  rw [h]
  cases a with
  | none => rfl
  | some a =>
    have hwritten : toJson (some a) = toJson a := rfl
    rw [hwritten]
    split
    · contradiction
    · rename_i heq
      exact absurd (Option.some.inj heq) (hnull a)
    · rename_i heq
      cases heq
      rw [Faithful.returns a]
      rfl

theorem Json.optionalField?_of_missing (h : members.lookup name = none) :
    Json.optionalField? (fun name => members.lookup name) name = some (none : Option α) := by
  rw [Json.optionalField?, h]

end

/-! ### Numbers -/

theorem Json.within?_integer {lo hi i : Int} (h : lo ≤ i ∧ i ≤ hi) :
    Json.within? lo hi (.integer i) = some i :=
  if_pos h

theorem Json.lt_of_natBelow? {bound n : Nat} {j : Json} (h : Json.natBelow? bound j = some n) :
    n < bound := by
  obtain ⟨i, hi, rfl⟩ := Option.map_eq_some_iff.mp h
  obtain ⟨k, -, hk⟩ := Option.bind_eq_some_iff.mp hi
  split at hk
  · cases hk
    omega
  · cases hk

theorem Json.natBelow?_integer {bound n : Nat} (h : n < bound) :
    Json.natBelow? bound (.integer n) = some n := by
  have hrange : (0 : Int) ≤ n ∧ (n : Int) ≤ (bound - 1 : Int) := by omega
  rw [Json.natBelow?, Json.within?_integer hrange]
  rfl

instance : Faithful String := .of_returns fun _ => rfl

instance : Faithful Bool := .of_returns fun _ => rfl

instance : Faithful UInt16 := .of_returns fun n => by
  change (Json.natBelow? _ (.integer n.toNat)).map UInt16.ofNat = some n
  rw [Json.natBelow?_integer n.toNat_lt_size, Option.map_some, UInt16.ofNat_toNat]

instance : Faithful UInt32 := .of_returns fun n => by
  change (Json.natBelow? _ (.integer n.toNat)).map UInt32.ofNat = some n
  rw [Json.natBelow?_integer n.toNat_lt_size, Option.map_some, UInt32.ofNat_toNat]

instance : Faithful UInt64 := .of_returns fun n => by
  change (Json.natBelow? _ (.integer n.toNat)).map UInt64.ofNat = some n
  rw [Json.natBelow?_integer n.toNat_lt_size, Option.map_some, UInt64.ofNat_toNat]

instance : Faithful Int32 := .of_returns fun i => by
  change (Json.within? _ _ (.integer i.toInt)).map Int32.ofInt = some i
  rw [Json.within?_integer ⟨i.minValue_le_toInt, i.toInt_le⟩, Option.map_some, Int32.ofInt_toInt]

instance : Faithful SessionId := .of_returns fun id => by
  change (ofJson? (toJson id.value)).map SessionId.mk = some id
  rw [Faithful.returns id.value]
  rfl

instance : Faithful Timestamp := .of_returns fun t => by
  change (ofJson? (toJson t.millis)).map Timestamp.mk = some t
  rw [Faithful.returns t.millis]
  rfl

/-! ### Choices -/

instance : Faithful SessionMode := .of_returns fun mode => by cases mode <;> rfl

instance : Faithful Origin := .of_returns fun origin => by cases origin <;> rfl

instance : Faithful NativeOperation := .of_returns fun o => by cases o <;> rfl

theorem InformType.ofJson?_other (n : Int32) (payload : Json) (h : ofJson? payload = some n) :
    ofJson? (.object [("Other", payload)]) = some (InformType.other n) := by
  change (ofJson? payload).map InformType.other = _
  rw [h]
  rfl

instance : Faithful InformType := .of_returns fun kind => by
  cases kind with
  | other n => exact InformType.ofJson?_other n _ (Faithful.returns n)
  | _ => rfl

theorem readsBare_sessionMode : ReadsBare SessionMode := by
  intro mode name h
  cases mode <;> cases h <;> rfl

theorem readsBare_origin : ReadsBare Origin := by
  intro origin name h
  cases origin <;> cases h <;> rfl

theorem readsBare_nativeOperation : ReadsBare NativeOperation := by
  intro o name h
  cases o <;> cases h <;> rfl

theorem readsBare_informType : ReadsBare InformType := by
  intro kind name h
  cases kind <;> cases h <;> rfl

/-! ### Records -/

theorem readsByName_session (s : Session) : ReadsByName s := by
  refine ⟨_, rfl, by simp, fun members h => ?_⟩
  simp only [List.forall_mem_cons] at h
  obtain ⟨hmode, hid, hname, hhandle, hestablished, -⟩ := h
  simp [ofJson?, Json.fields?, Json.field?_of_lookup hmode, Json.field?_of_lookup hid,
    Json.field?_of_lookup hname, Json.field?_of_lookup hhandle, Json.field?_of_lookup hestablished]

instance : Faithful Session := .of_returns fun s => (readsByName_session s).returns

theorem SessionId.toJson_ne_null (id : SessionId) : toJson id ≠ .null := nofun

theorem Attempt.ofJson?_object {a : Attempt} {members : List (String × Json)}
    (hmode : members.lookup "mode" = some (toJson a.mode))
    (hname : members.lookup "session_name" = some (toJson a.sessionName))
    (hhandle : members.lookup "handle" = some (toJson a.handle))
    (hid : Json.optionalField? (fun name => members.lookup name) "session_id" = some a.sessionId)
    (hjoined : members.lookup "joined_early" = some (toJson a.joinedEarly))
    (hstarted : members.lookup "started_at" = some (toJson a.startedAt)) :
    ofJson? (.object members) = some a := by
  simp [ofJson?, Json.fields?, Json.field?_of_lookup hmode, Json.field?_of_lookup hname,
    Json.field?_of_lookup hhandle, hid, Json.field?_of_lookup hjoined, Json.field?_of_lookup hstarted]

theorem readsByName_attempt (a : Attempt) : ReadsByName a := by
  refine ⟨_, rfl, by simp, fun members h => ?_⟩
  simp only [List.forall_mem_cons] at h
  obtain ⟨hmode, hname, hhandle, hid, hjoined, hstarted, -⟩ := h
  exact Attempt.ofJson?_object hmode hname hhandle
    (Json.optionalField?_of_lookup SessionId.toJson_ne_null hid) hjoined hstarted

theorem Attempt.ofJson?_of_missing {a : Attempt} (hnone : a.sessionId = none)
    {fields members : List (String × Json)} (hjson : toJson a = .object fields)
    (h : ∀ f ∈ fields, f.1 ≠ "session_id" → members.lookup f.1 = some f.2)
    (hmissing : members.lookup "session_id" = none) : ofJson? (.object members) = some a := by
  cases hjson
  simp only [List.forall_mem_cons] at h
  obtain ⟨hmode, hname, hhandle, -, hjoined, hstarted, -⟩ := h
  refine Attempt.ofJson?_object (hmode (by decide)) (hname (by decide)) (hhandle (by decide)) ?_
    (hjoined (by decide)) (hstarted (by decide))
  rw [hnone]
  exact Json.optionalField?_of_missing hmissing

instance : Faithful Attempt := .of_returns fun a => (readsByName_attempt a).returns

theorem readsByName_participant (p : Participant) : ReadsByName p := by
  refine ⟨_, rfl, by simp, fun members h => ?_⟩
  simp only [List.forall_mem_cons] at h
  obtain ⟨hname, hjoined, -⟩ := h
  simp [ofJson?, Json.fields?, Json.field?_of_lookup hname, Json.field?_of_lookup hjoined]

instance : Faithful Participant := .of_returns fun p => (readsByName_participant p).returns

theorem readsByName_auditEntry (a : AuditEntry) : ReadsByName a := by
  refine ⟨_, rfl, by simp, fun members h => ?_⟩
  simp only [List.forall_mem_cons] at h
  obtain ⟨htime, hfrom, hto, hevent, -⟩ := h
  simp [ofJson?, Json.fields?, Json.field?_of_lookup htime, Json.field?_of_lookup hfrom,
    Json.field?_of_lookup hto, Json.field?_of_lookup hevent]

instance : Faithful AuditEntry := .of_returns fun a => (readsByName_auditEntry a).returns

theorem readsByName_target (t : BusTarget) : ReadsByName t := by
  refine ⟨_, rfl, by simp, fun members h => ?_⟩
  simp only [List.forall_mem_cons] at h
  obtain ⟨hinterface, hprefix, hpath, hport, -⟩ := h
  simp [ofJson?, Json.fields?, Json.field?_of_lookup hinterface, Json.field?_of_lookup hprefix,
    Json.field?_of_lookup hpath, Json.field?_of_lookup hport]

instance : Faithful BusTarget := .of_returns fun t => (readsByName_target t).returns

theorem readsByName_config (c : BusConfig) : ReadsByName c := by
  refine ⟨_, rfl, by simp, fun members h => ?_⟩
  simp only [List.forall_mem_cons] at h
  obtain ⟨hinterface, hprefix, hpath, hport, hlength, hbuffer, -⟩ := h
  simp [ofJson?, Json.fields?, Json.field?_of_lookup hinterface, Json.field?_of_lookup hprefix,
    Json.field?_of_lookup hpath, Json.field?_of_lookup hport, Json.field?_of_lookup hlength,
    Json.field?_of_lookup hbuffer]

instance : Faithful BusConfig := .of_returns fun c => (readsByName_config c).returns

theorem readsByName_entry {e : Entry} (hfits : e.sequence < UInt64.size) : ReadsByName e := by
  refine ⟨_, rfl, by simp, fun members h => ?_⟩
  simp only [List.forall_mem_cons] at h
  obtain ⟨hsequence, htime, horigin, hkind, htext, -⟩ := h
  simp [ofJson?, Json.fields?, hsequence, Json.natBelow?_integer hfits, Json.field?_of_lookup htime,
    Json.field?_of_lookup horigin, Json.field?_of_lookup hkind, Json.field?_of_lookup htext]

theorem Entry.sequence_lt_of_ofJson? {j : Json} {e : Entry} (h : ofJson? j = some e) :
    e.sequence < UInt64.size := by
  obtain ⟨f, -, h⟩ := Option.bind_eq_some_iff.mp h
  obtain ⟨sequence, hsequence, h⟩ := Option.bind_eq_some_iff.mp h
  obtain ⟨number, -, hnumber⟩ := Option.bind_eq_some_iff.mp hsequence
  obtain ⟨timestamp, -, h⟩ := Option.bind_eq_some_iff.mp h
  obtain ⟨origin, -, h⟩ := Option.bind_eq_some_iff.mp h
  obtain ⟨kind, -, h⟩ := Option.bind_eq_some_iff.mp h
  obtain ⟨text, -, h⟩ := Option.bind_eq_some_iff.mp h
  cases h
  exact Json.lt_of_natBelow? hnumber

theorem returns_entry_iff {e : Entry} : Returns e ↔ e.sequence < UInt64.size :=
  ⟨Entry.sequence_lt_of_ofJson?, fun hfits => (readsByName_entry hfits).returns⟩

/-! ### The state of the session -/

theorem SessionState.ofJson?_connecting {payload : Json} {a : Attempt} (h : ofJson? payload = some a) :
    ofJson? (.object [("Connecting", payload)]) = some (SessionState.connecting a) := by
  change (ofJson? payload).map SessionState.connecting = _
  rw [h]
  rfl

theorem SessionState.ofJson?_owner {payload : Json} {s : Session} (h : ofJson? payload = some s) :
    ofJson? (.object [("Owner", payload)]) = some (SessionState.owner s) := by
  change (ofJson? payload).map SessionState.owner = _
  rw [h]
  rfl

theorem SessionState.ofJson?_joined {payload : Json} {s : Session} (h : ofJson? payload = some s) :
    ofJson? (.object [("Joined", payload)]) = some (SessionState.joined s) := by
  change (ofJson? payload).map SessionState.joined = _
  rw [h]
  rfl

instance : Faithful SessionState := .of_returns fun state => by
  cases state with
  | disconnected => rfl
  | connecting a => exact SessionState.ofJson?_connecting (Faithful.returns a)
  | owner s => exact SessionState.ofJson?_owner (Faithful.returns s)
  | joined s => exact SessionState.ofJson?_joined (Faithful.returns s)

theorem readsBare_sessionState : ReadsBare SessionState := by
  intro state name h
  cases state with
  | disconnected =>
    cases h
    rfl
  | _ => cases h

/-- Whatever is written is read back as it was, and what has been read from any JSON is written in a
form that reads the same; an entry, whose position is not bounded here, exactly if its position has 64
bits, and one that has been read has. The JSON that is read need not look like the JSON that is written:
a record is read from any object that holds its fields, the id of an attempt may be missing if there is
none, a bare case may carry null, and the payload of a case may be any JSON that reads as it. A kind with
a number stays apart from the kinds with a name, whatever the number. -/
theorem json_round_trip :
    (Faithful SessionState ∧ Faithful Attempt ∧ Faithful Session ∧ Faithful Participant ∧
      Faithful AuditEntry ∧ Faithful BusTarget ∧ Faithful BusConfig ∧ Faithful InformType ∧
      Faithful Origin ∧ Faithful SessionMode ∧ Faithful NativeOperation ∧ Faithful SessionId ∧
      Faithful Timestamp) ∧
    ((∀ e : Entry, Returns e ↔ e.sequence < UInt64.size) ∧
      ∀ (j : Json) (e : Entry), ofJson? j = some e → Returns e) ∧
    ((∀ a : Attempt, ReadsByName a) ∧ (∀ s : Session, ReadsByName s) ∧
      (∀ p : Participant, ReadsByName p) ∧ (∀ a : AuditEntry, ReadsByName a) ∧
      (∀ t : BusTarget, ReadsByName t) ∧ (∀ c : BusConfig, ReadsByName c) ∧
      ∀ e : Entry, e.sequence < UInt64.size → ReadsByName e) ∧
    (∀ (a : Attempt) (fields members : List (String × Json)), a.sessionId = none →
      toJson a = .object fields →
      (∀ f ∈ fields, f.1 ≠ "session_id" → members.lookup f.1 = some f.2) →
      members.lookup "session_id" = none → ofJson? (.object members) = some a) ∧
    (ReadsBare SessionState ∧ ReadsBare InformType ∧ ReadsBare Origin ∧ ReadsBare SessionMode ∧
      ReadsBare NativeOperation) ∧
    (∀ payload : Json,
      (∀ a : Attempt, ofJson? payload = some a →
        ofJson? (.object [("Connecting", payload)]) = some (SessionState.connecting a)) ∧
      ∀ s : Session, ofJson? payload = some s →
        ofJson? (.object [("Owner", payload)]) = some (SessionState.owner s) ∧
          ofJson? (.object [("Joined", payload)]) = some (SessionState.joined s)) ∧
    ∀ n : Int32, ofJson? (.object [("Other", .integer n.toInt)]) = some (InformType.other n) ∧
      ∀ kind : InformType, toJson kind = toJson (InformType.other n) → kind = .other n := by
  refine ⟨?_, ⟨fun e => returns_entry_iff, ?_⟩, ?_, ?_, ?_, ?_, ?_⟩
  · exact ⟨inferInstance, inferInstance, inferInstance, inferInstance, inferInstance, inferInstance,
      inferInstance, inferInstance, inferInstance, inferInstance, inferInstance, inferInstance,
      inferInstance⟩
  · exact fun j e h => returns_entry_iff.mpr (Entry.sequence_lt_of_ofJson? h)
  · exact ⟨readsByName_attempt, readsByName_session, readsByName_participant, readsByName_auditEntry,
      readsByName_target, readsByName_config, fun e => readsByName_entry⟩
  · exact fun a fields members hnone hjson h hmissing => a.ofJson?_of_missing hnone hjson h hmissing
  · exact ⟨readsBare_sessionState, readsBare_informType, readsBare_origin, readsBare_sessionMode,
      readsBare_nativeOperation⟩
  · exact fun payload => ⟨fun a => SessionState.ofJson?_connecting,
      fun s h => ⟨SessionState.ofJson?_owner h, SessionState.ofJson?_joined h⟩⟩
  · exact fun n => ⟨InformType.ofJson?_other n _ (Faithful.returns n), fun kind => toJson_injective⟩

def extremeEntry : Entry where
  timestamp := ⟨18446744073709551615⟩
  origin := .inbound
  kind := .other (-2147483648)
  text := "\"\u2028\x00"
  sequence := 18446744073709551615

theorem json_round_trip_extremes :
    ofJson? (toJson extremeEntry) = some extremeEntry ∧
      ofJson? (.object [("Connecting", .object [("handle", .string "me"), ("color", .null),
        ("mode", .string "Joiner"), ("started_at", .integer 0), ("session_name", .string ""),
        ("joined_early", .bool true)])]) =
        some (SessionState.connecting ⟨.joiner, "", "me", none, true, ⟨0⟩⟩) ∧
      ofJson? (.object [("Joiner", .null)]) = some SessionMode.joiner ∧
      ofJson? (toJson (InformType.other 0)) = some (InformType.other 0) ∧
      toJson InformType.error ≠ toJson (InformType.other 0) := by
  obtain ⟨-, ⟨hentry, -⟩, -, hmissing, ⟨-, -, -, hmode, -⟩, hpayload, hother⟩ := json_round_trip
  refine ⟨(hentry extremeEntry).mpr (by decide), ?_, hmode .joiner _ rfl, (hother 0).1, ?_⟩
  · refine (hpayload _).1 _ (hmissing _ _ _ rfl rfl ?_ rfl)
    simp [toJson, SessionMode.name, List.lookup_cons]
  · intro heq
    cases (hother 0).2 .error heq

end SessionBridge
