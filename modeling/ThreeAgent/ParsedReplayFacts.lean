/-
When a source is parsed to the end of its batch (`replay_and_parse`).

Every event that a parser builds passes its own validation, so that a record
stops the call only where an exception leaves the parser: JSON nested beyond
the recursion limit, a number that the platform's clock cannot represent, a
severity that is no dictionary key. What then decides is the next checkpoint,
which wants the greatest text among the event times to be in UTC.
-/
import ThreeAgent.ByteReplayFacts
import ThreeAgent.Lib.WholeFloat
import ThreeAgent.SensorParsers

namespace ThreeAgent

variable {rest cs : List Char} {maxLen : Nat} {front checkpointedAt : String}

namespace SecurityMonitoring

open PyText Outcome PyJson Records

variable {m : SyslogMatch} {time : DateTime} {bytes : Bytes} {parsed : ParsedReplayBatch}

variable {c : Char} {r : DeterministicByteReplay} {checkpoint : Option SourceCheckpoint} {batch : ReplayBatch}

/-! ## Identifiers -/

/-- A character of an identifier that cannot make it a URL. -/
def isMarkChar (c : Char) : Bool := isAsciiAlnum c || c ∈ ['.', '_', ':', '-']

theorem isMarkChar_spec (h : isMarkChar c = true) : isSpace c = false ∧ c ≠ '/' ∧
    (isAsciiAlnum c || c ∈ ['.', '_', ':', '@', '+', '-', '/']) = true := by
  simp only [isMarkChar, Bool.or_eq_true, decide_eq_true_eq, List.mem_cons, List.not_mem_nil, or_false] at h
  rcases h with h | rfl | rfl | rfl | rfl
  · refine ⟨isSpace_of_range ?_, ?_, by rw [h, Bool.true_or]⟩
    · rw [isAsciiAlnum_iff] at h
      omega
    · rintro rfl
      exact absurd h (by decide)
  all_goals decide

theorem compact_of_marks {text : String} (htext : text.toList = c :: rest)
    (hc : isAsciiAlnum c = true) (hrest : ∀ d ∈ rest, isMarkChar d = true) (hlen : rest.length < maxLen)
    (hmax : maxLen ≤ 256) (fieldName : String) : compact text fieldName maxLen = .ok text := by
  have hmark : ∀ d ∈ text.toList, isMarkChar d = true := by
    intro d hd
    rw [htext] at hd
    rcases List.mem_cons.mp hd with rfl | hd
    · rw [isMarkChar, hc, Bool.true_or]
    · exact hrest d hd
  have hstrip : strip text = text := strip_eq_self fun d hd => (isMarkChar_spec (hmark d hd)).1
  rw [compact_ok, hstrip]
  refine ⟨⟨?_, ?_, ?_⟩, ?_, rfl⟩
  · rintro rfl
    cases htext
  · rw [htext, List.length_cons]
    omega
  · rw [htext]
    simp only [refRe, Bool.and_eq_true, List.all_eq_true, decide_eq_true_eq]
    exact ⟨⟨hc, fun d hd => (isMarkChar_spec (hrest d hd)).2.2⟩, by omega⟩
  · rw [← Bool.not_eq_true, contains_iff]
    intro hin
    exact (isMarkChar_spec (hmark '/' (hin.subset (by decide)))).2.1 rfl

theorem isMarkChar_of_hexDigit (h : Sha256.isHexDigit c = true) : isMarkChar c = true := by
  rw [isMarkChar, isAsciiAlnum_of_hexDigit h, Bool.true_or]

theorem compact_digest (hfront : front.toList = c :: rest)
    (hc : isAsciiAlnum c = true) (hrest : ∀ d ∈ rest, isMarkChar d = true) (hlen : rest.length ≤ 60) {n : Nat}
    (hn : n ≤ 64) (hlong : 128 ≤ maxLen) (hmax : maxLen ≤ 256) (line fieldName : String) :
    compact (front ++ digestPrefix (hashText line) n) fieldName maxLen = .ok (front ++ digestPrefix (hashText line) n) := by
  obtain ⟨hdigits, hhex⟩ := digestPrefix_hashText line hn
  have htext : (front ++ digestPrefix (hashText line) n).toList = c :: (rest ++ (digestPrefix (hashText line) n).toList) := by
    rw [String.toList_append, hfront, List.cons_append]
  refine compact_of_marks htext hc ?_ ?_ hmax fieldName
  · intro d hd
    rcases List.mem_append.mp hd with hd | hd
    · exact hrest d hd
    · exact isMarkChar_of_hexDigit (hhex d hd)
  · rw [List.length_append, hdigits]
    omega

/-! ## Categories -/

theorem compact_category (hfront : front.toList = c :: rest)
    (hc : isAsciiAlnum c = true) (hrest : ∀ d ∈ rest, isMarkChar d = true) (hlen : rest.length ≤ 20)
    (hcs : ∀ d ∈ cs, isMarkChar d = true) :
    compact (front ++ String.ofList (cs.take 72)) "category" 96 = .ok (front ++ String.ofList (cs.take 72)) := by
  have htext : (front ++ String.ofList (cs.take 72)).toList = c :: (rest ++ cs.take 72) := by
    rw [String.toList_append, hfront, String.toList_ofList, List.cons_append]
  refine compact_of_marks htext hc ?_ ?_ (by decide) _
  · intro d hd
    rcases List.mem_append.mp hd with hd | hd
    · exact hrest d hd
    · exact hcs d (List.mem_of_mem_take hd)
  · rw [List.length_append, List.length_take]
    omega

theorem isMarkChar_of_isCategoryChar (h : isCategoryChar c = true) : isMarkChar c = true := by
  simp only [isCategoryChar, isMarkChar, Bool.or_eq_true, decide_eq_true_eq, List.mem_cons, List.not_mem_nil, or_false]
    at h ⊢
  tauto

theorem substituteRuns_chars {inRun : Bool} {d : Char} (h : d ∈ substituteRuns inRun cs) :
    isCategoryChar d = true := by
  induction cs generalizing inRun with
  | nil => simp [substituteRuns] at h
  | cons c cs ih =>
    rw [substituteRuns] at h
    by_cases hc : isCategoryChar c = true
    · rw [if_pos hc] at h
      rcases List.mem_cons.mp h with rfl | h
      · exact hc
      · exact ih h
    · rw [if_neg hc] at h
      cases inRun with
      | true => exact ih h
      | false =>
        rcases List.mem_cons.mp h with rfl | h
        · decide
        · exact ih h

theorem lowerChar_app (h : isAppChar c = true) : ∃ d, lowerChar c = [d] ∧ (isMarkChar d = true ∨ d = '/') := by
  simp only [isAppChar, Bool.or_eq_true, decide_eq_true_eq, List.mem_cons, List.not_mem_nil, or_false] at h
  rcases h with h | rfl | rfl | rfl | rfl
  · obtain ⟨d, hd, halnum⟩ := lowerChar_alnum h
    exact ⟨d, hd, .inl (by rw [isMarkChar, halnum, Bool.true_or])⟩
  · exact ⟨'_', by decide, .inl (by decide)⟩
  · exact ⟨'.', by decide, .inl (by decide)⟩
  · exact ⟨'-', by decide, .inl (by decide)⟩
  · exact ⟨'/', by decide, .inr rfl⟩

theorem isMarkChar_of_app {app : String} (h : ∀ c ∈ app.toList, isAppChar c = true) {d : Char}
    (hd : d ∈ (replaceChar '/' '_' (lower app)).toList) : isMarkChar d = true := by
  simp only [replaceChar, lower, String.toList_ofList, List.mem_map, List.mem_flatMap] at hd
  obtain ⟨e, ⟨c, hc, he⟩, rfl⟩ := hd
  obtain ⟨d, hlower, hmark⟩ := lowerChar_app (h c hc)
  rw [hlower, List.mem_singleton] at he
  by_cases hslash : e = '/'
  · rw [if_pos hslash]
    decide
  · rw [if_neg hslash, he]
    exact hmark.resolve_right (he ▸ hslash)

/-! ## One record -/

theorem syslogRe_app {text : String} (h : syslogRe text = some m) :
    ∀ c ∈ m.app.toList, isAppChar c = true := by
  obtain ⟨pri, cs, hbody⟩ : ∃ pri cs, syslogBody pri cs = some m := by
    unfold syslogRe at h
    split at h
    · dsimp only at h
      split at h
      · split at h
        · exact ⟨_, _, h⟩
        · cases h
      · cases h
    · cases h
  simp only [syslogBody, bind, pure, Option.bind_eq_some_iff, Option.some.injEq] at hbody
  obtain ⟨-, -, ⟨_, rest⟩, -, -, -, -, -, -, -, rfl⟩ := hbody
  intro c hc
  rw [String.toList_ofList] at hc
  exact List.mem_takeWhile_imp hc

section Records

variable {F : Type} [PySensor F]

theorem recordEvent_validate {line sourceId : String} {sourceType : SourceType} {category : String}
    {severity : Severity} {parserVersion : String} (hsource : compact sourceId "source_id" 128 = .ok sourceId)
    (htime : PySensor.representable F time) (haware : time.offset.isSome = true)
    (hcategory : compact category "category" 96 = .ok category)
    (hversion : compact parserVersion "parser_version" 96 = .ok parserVersion) :
    (recordEvent F sourceId sourceType line parserVersion time category severity).validate =
      .ok (recordEvent F sourceId sourceType line parserVersion time category severity) := by
  have hid : compact ("evt-" ++ digestPrefix (hashText line) 24) "event_id" 128 =
      .ok ("evt-" ++ digestPrefix (hashText line) 24) :=
    compact_digest (show "evt-".toList = 'e' :: ['v', 't', '-'] from rfl) (by decide) (forall_mem_of_all (by decide))
      (by decide) (by decide) (by decide) (by decide) _ _
  have href : compact ("event:" ++ digestPrefix (hashText line) 32) "evidence_ref" 256 =
      .ok ("event:" ++ digestPrefix (hashText line) 32) :=
    compact_digest (show "event:".toList = 'e' :: ['v', 'e', 'n', 't', ':'] from rfl) (by decide)
      (forall_mem_of_all (by decide)) (by decide) (by decide) (by decide) (by decide) _ _
  have htype : compact sourceType.text "source_type" 64 = .ok sourceType.text := by
    cases sourceType <;> decide
  have hiso : isoTimestamp (PySensor.isoformat F time) "observed_at" = .ok (PySensor.isoformat F time) := by
    simp only [isoTimestamp, bind_ok, orRaise_ok, require_ok, pure_ok, exists_const]
    rw [PySensor.strip_isoformat time htime]
    exact ⟨time, PySensor.read_isoformat time htime haware, Option.isSome_iff_ne_none.mp haware, rfl⟩
  simp only [CanonicalEvent.validate, bind_ok, require_ok, pure_ok, exists_const]
  exact ⟨_, hid, _, hsource, _, htype, _, hiso, _, hcategory, sha256Re_hashText _, _, hversion, _,
    by simp only [optionalCompact, recordEvent, href]; rfl, rfl⟩

end Records

/-- A time that the parsers write: one the interpreter has, with an offset. -/
def Aware (F : Type) [PySensor F] (time : DateTime) : Prop := PySensor.representable F time ∧ time.offset.isSome = true

theorem readTime_aware {F : Type} [PySensor F] (text : String) :
    ∀ t ∈ (PyTime.read text).filter (·.offset.isSome), Aware F t := by
  intro t ht
  obtain ⟨hread, haware⟩ := Option.mem_filter_iff.mp ht
  exact ⟨PySensor.read_representable text t hread, haware⟩

section Times

variable {F : Type} [PyRuntime F] [PySensor F]

/-- A number for which `datetime.fromtimestamp` raises the `OSError`. -/
def ClockFails (number : Num F) : Prop := ∃ x, number.toFloat = some x ∧ PySensor.fromTimestamp x = .osError

def number? : Json F → Option (Num F)
  | .bool b => some (.int (if b then 1 else 0))
  | .int n => some (.int n)
  | .float x => some (.float x)
  | _ => none

/-- A candidate that fails on the clock, none before it giving a time. -/
inductive TimestampFails : List (Json F) → Prop where
  | here {v : Json F} {vs : List (Json F)} {number : Num F} (hnumber : number? v = some number) (hfails : ClockFails number) :
    TimestampFails (v :: vs)
  | later {v : Json F} {vs : List (Json F)} (hnone : candidateTime v = .ok none) (hfails : TimestampFails vs) :
    TimestampFails (v :: vs)

theorem numberTime_cases (number : Num F) : (∃ e, numberTime number = .error e ∧ ClockFails number) ∨
    ∃ time, numberTime number = .ok time ∧ (∀ t ∈ time, Aware F t) ∧ ¬ ClockFails number := by
  cases hfloat : number.toFloat with
  | none => exact .inr ⟨none, by rw [numberTime, hfloat]; rfl, by simp, by simp [ClockFails, hfloat]⟩
  | some x =>
    cases hx : PySensor.fromTimestamp x with
    | time instant =>
      refine .inr ⟨some ⟨instant, some 0⟩, by simp only [numberTime, hfloat, hx]; rfl, ?_, by simp [ClockFails, hfloat, hx]⟩
      intro t ht
      rw [← Option.mem_some_iff.mp ht]
      exact ⟨PySensor.fromTimestamp_representable x instant hx, rfl⟩
    | refused =>
      exact .inr ⟨none, by simp only [numberTime, hfloat, hx]; rfl, by simp, by simp [ClockFails, hfloat, hx]⟩
    | osError => exact .inl ⟨_, by simp only [numberTime, hfloat, hx]; rfl, x, hfloat, hx⟩

theorem candidateTime_cases (v : Json F) :
    (∃ e number, candidateTime v = .error e ∧ number? v = some number ∧ ClockFails number) ∨
      ∃ time, candidateTime v = .ok time ∧ (∀ t ∈ time, Aware F t) ∧ ∀ number, number? v = some number → ¬ ClockFails number := by
  have hnumber : ∀ number : Num F, candidateTime v = numberTime number → number? v = some number →
      (∃ e number, candidateTime v = .error e ∧ number? v = some number ∧ ClockFails number) ∨
        ∃ time, candidateTime v = .ok time ∧ (∀ t ∈ time, Aware F t) ∧
          ∀ number, number? v = some number → ¬ ClockFails number := by
    intro number hv hn
    rw [hv, hn]
    rcases numberTime_cases number with ⟨e, he, hfails⟩ | ⟨time, htime, haware, hok⟩
    · exact .inl ⟨e, number, he, rfl, hfails⟩
    · exact .inr ⟨time, htime, haware, fun _ he => Option.some.inj he ▸ hok⟩
  cases v with
  | null => exact .inr ⟨none, rfl, by simp, by simp [number?]⟩
  | bool b => exact hnumber _ rfl rfl
  | int n => exact hnumber _ rfl rfl
  | float x => exact hnumber _ rfl rfl
  | str s => exact .inr ⟨_, rfl, readTime_aware _, by simp [number?]⟩
  | arr xs => exact .inr ⟨_, rfl, readTime_aware _, by simp [number?]⟩
  | obj kvs => exact .inr ⟨_, rfl, readTime_aware _, by simp [number?]⟩

theorem firstTime_cases (vs : List (Json F)) : (∃ e, firstTime vs = .error e ∧ TimestampFails vs) ∨
    ∃ time, firstTime vs = .ok time ∧ (∀ t ∈ time, Aware F t) ∧ ¬ TimestampFails vs := by
  induction vs with
  | nil => exact .inr ⟨none, rfl, by simp, by rintro ⟨⟩⟩
  | cons v vs ih =>
    rcases candidateTime_cases v with ⟨e, number, he, hnumber, hfails⟩ | ⟨time, htime, haware, hok⟩
    · exact .inl ⟨e, by rw [firstTime, he]; rfl, .here hnumber hfails⟩
    · cases time with
      | some t =>
        refine .inr ⟨some t, by rw [firstTime, htime]; rfl, haware, ?_⟩
        rintro (⟨hnumber, hfails⟩ | ⟨hnone, -⟩)
        · exact hok _ hnumber hfails
        · rw [htime] at hnone
          cases hnone
      | none =>
        have hstep : firstTime (v :: vs) = firstTime vs := by rw [firstTime, htime]; rfl
        rw [hstep]
        rcases ih with ⟨e, he, hfails⟩ | ⟨time, htime', haware', hok'⟩
        · exact .inl ⟨e, he, .later htime hfails⟩
        · refine .inr ⟨time, htime', haware', ?_⟩
          rintro (⟨hnumber, hfails⟩ | ⟨-, hfails⟩)
          · exact hok _ hnumber hfails
          · exact hok' hfails

end Times

/-! ### The outcome of a record -/

section Outcome

/-- The time of the event that a record gives, none of a record that is quarantined. -/
def recordTime (F : Type) [PyRuntime F] [PySensor F] (sourceType : SourceType) (text : String) : Option DateTime :=
  match sourceType with
  | .syslog => ((syslogRe (strip text)).bind syslogHeader).map (·.2)
  | _ =>
    match (loadsPayload text : Option (Json F)) with
    | some (.obj fields) => ((eventTimestamp (.obj fields) sourceType).toOption).join
    | _ => none

/-- A list or a dictionary, which is no dictionary key. -/
def isUnhashable {F : Type} : Json F → Bool
  | .arr _ | .obj _ => true
  | _ => false

/-- What an exception leaves the parser for. -/
inductive Stops (F : Type) [PyRuntime F] [PySensor F] (sourceType : SourceType) (text : String) : Prop where
  /-- JSON beyond the recursion limit. -/
  | nesting (htype : sourceType ≠ .syslog) (hdeep : PySensor.tooDeep F text = true)
  /-- A time beyond the platform's clock. -/
  | clock (htype : sourceType ≠ .syslog) (fields : List (String × Json F)) (hloads : loadsPayload text = some (.obj fields))
    (hfails : TimestampFails (timeCandidates (.obj fields) sourceType))
  /-- An alert whose severity is a list or a dictionary. -/
  | severity (htype : sourceType = .suricataEve) (fields : List (String × Json F))
      (hloads : loadsPayload text = some (.obj fields))
    (htime : (recordTime F sourceType text).isSome = true)
    (halert : textOrElse ((Json.obj fields).get? "event_type") "unknown" = "alert")
    (hseverity : isUnhashable (((Json.obj fields).item "alert").item "severity") = true)

variable {F : Type} [PyRuntime F] [PySensor F] {now sourceId text : String} {sourceType : SourceType}

omit [PyRuntime F] in
theorem syslogHeader_aware {priority : Nat} (h : syslogHeader m = some (priority, time)) :
    Aware F time := by
  simp only [syslogHeader, bind, pure, Option.bind_eq_some_iff, Option.guard_eq_some', Option.some.injEq, Prod.mk.injEq] at h
  obtain ⟨-, -, -, -, t, hread, -, haware, -, rfl⟩ := h
  exact ⟨PySensor.read_representable _ _ hread, haware⟩

theorem parseSyslogLine_cases (hsource : compact sourceId "source_id" 128 = .ok sourceId) :
    (recordTime F .syslog text = none ∧ ∃ q, parseSyslogLine F now sourceId text = .ok (.quarantined q)) ∨
    ∃ time e, recordTime F .syslog text = some time ∧ Aware F time ∧
      parseSyslogLine F now sourceId text = .ok (.event e) ∧ e.observedAt = PySensor.isoformat F time := by
  cases hmatch : syslogRe (strip text) with
  | none =>
    left
    exact ⟨by simp [recordTime, hmatch], _, by simp only [parseSyslogLine, hmatch]; rfl⟩
  | some m =>
    cases hheader : syslogHeader m with
    | none =>
      left
      exact ⟨by simp [recordTime, hmatch, hheader], _, by simp only [parseSyslogLine, hmatch, hheader]; rfl⟩
    | some header =>
      obtain ⟨priority, time⟩ := header
      have haware : Aware F time := syslogHeader_aware hheader
      have hcategory : compact (syslogCategory m.app) "category" 96 = .ok (syslogCategory m.app) :=
        compact_category (show "syslog.".toList = 's' :: "yslog.".toList from rfl) (by decide)
          (forall_mem_of_all (by decide)) (by decide)
          fun _ => isMarkChar_of_app (syslogRe_app hmatch)
      have hversion : compact syslogParserVersion "parser_version" 96 = .ok syslogParserVersion := by decide
      right
      exact ⟨time, _, by simp [recordTime, hmatch, hheader], haware, by
        simp only [parseSyslogLine, hmatch, hheader, bind_ok, pure_ok]
        exact ⟨_, recordEvent_validate hsource haware.1 haware.2 hcategory hversion, rfl⟩, rfl⟩

omit [PySensor F] in
theorem classify_cases (fields : List (String × Json F)) (htype : sourceType ≠ .syslog) :
    (∃ e, classify (.obj fields) sourceType = .error e ∧ sourceType = .suricataEve ∧
      textOrElse ((Json.obj fields).get? "event_type") "unknown" = "alert" ∧
      isUnhashable (((Json.obj fields).item "alert").item "severity") = true) ∨
    ∃ category severity, classify (.obj fields) sourceType = .ok (category, severity) ∧
      compact category "category" 96 = .ok category ∧
      ¬ (sourceType = .suricataEve ∧ textOrElse ((Json.obj fields).get? "event_type") "unknown" = "alert" ∧
        isUnhashable (((Json.obj fields).item "alert").item "severity") = true) := by
  have hchars : ∀ (text : String) (d : Char), d ∈ substituteRuns false text.toList → isMarkChar d = true :=
    fun _ _ hd => isMarkChar_of_isCategoryChar (substituteRuns_chars hd)
  cases sourceType with
  | syslog => exact absurd rfl htype
  | zeekJson =>
    refine .inr ⟨_, _, rfl, ?_, by simp⟩
    exact compact_category (show "zeek.".toList = 'z' :: "eek.".toList from rfl) (by decide)
      (forall_mem_of_all (by decide)) (by decide) (hchars _)
  | suricataEve =>
    have hcategory : ∀ text, compact (sensorCategory "suricata." text) "category" 96 = .ok (sensorCategory "suricata." text) :=
      fun text => compact_category (show "suricata.".toList = 's' :: "uricata.".toList from rfl) (by decide)
        (forall_mem_of_all (by decide)) (by decide)
        (hchars text)
    by_cases halert : textOrElse ((Json.obj fields).get? "event_type") "unknown" = "alert"
    · cases hseverity : ((Json.obj fields).item "alert").item "severity" with
      | arr xs => exact .inl ⟨_, by simp only [classify, halert, ite_true, hseverity]; rfl, rfl, halert, rfl⟩
      | obj kvs => exact .inl ⟨_, by simp only [classify, halert, ite_true, hseverity]; rfl, rfl, halert, rfl⟩
      | _ =>
        refine .inr ⟨_, _, by simp only [classify, halert, ite_true, hseverity]; rfl, hcategory _, ?_⟩
        simp [isUnhashable]
    · exact .inr ⟨_, _, by simp only [classify, halert, ite_false]; rfl, hcategory _, by simp [halert]⟩

theorem recordTime_fields {fields : List (String × Json F)} (htype : sourceType ≠ .syslog)
    (hloads : loadsPayload text = some (.obj fields)) {time : Option DateTime}
    (htime : eventTimestamp (.obj fields) sourceType = .ok time) : recordTime F sourceType text = time := by
  have hjson : recordTime F sourceType text = ((eventTimestamp (.obj fields) sourceType).toOption).join := by
    cases sourceType with
    | syslog => exact absurd rfl htype
    | suricataEve => simp only [recordTime, hloads]
    | zeekJson => simp only [recordTime, hloads]
  rw [hjson, htime]
  cases time <;> rfl

theorem recordTime_noFields (htype : sourceType ≠ .syslog)
    (hloads : ∀ fields, (loadsPayload text : Option (Json F)) ≠ some (.obj fields)) : recordTime F sourceType text = none := by
  have hmatch : (match (loadsPayload text : Option (Json F)) with
      | some (.obj fields) => ((eventTimestamp (.obj fields) sourceType).toOption).join
      | _ => none) = none := by
    split
    · rename_i fields heq
      exact absurd heq (hloads fields)
    · rfl
  cases sourceType with
  | syslog => exact absurd rfl htype
  | suricataEve => exact hmatch
  | zeekJson => exact hmatch

theorem parseJsonSensorEvent_cases (hsource : compact sourceId "source_id" 128 = .ok sourceId)
    (htype : sourceType ≠ .syslog) :
    (Stops F sourceType text ∧ ∃ e, parseJsonSensorEvent F now sourceId sourceType text = .error e) ∨
    (¬ Stops F sourceType text ∧ recordTime F sourceType text = none ∧
      ∃ q, parseJsonSensorEvent F now sourceId sourceType text = .ok (.quarantined q)) ∨
    (¬ Stops F sourceType text ∧ ∃ time e, recordTime F sourceType text = some time ∧ Aware F time ∧
      parseJsonSensorEvent F now sourceId sourceType text = .ok (.event e) ∧ e.observedAt = PySensor.isoformat F time) := by
  have hrequire : require (sourceType ≠ .syslog) (contractError "unsupported JSON sensor source_type") = .ok ⟨⟩ :=
    require_ok.mpr htype
  cases hdeep : PySensor.tooDeep F text with
  | true =>
    left
    exact ⟨.nesting htype hdeep, _, by rw [parseJsonSensorEvent, hrequire, hdeep]; rfl⟩
  | false =>
    by_cases hfields : ∃ fields, (loadsPayload text : Option (Json F)) = some (.obj fields)
    · obtain ⟨fields, hloads⟩ := hfields
      rcases firstTime_cases (timeCandidates (.obj fields) sourceType) with ⟨e, he, hfails⟩ | ⟨time, htime, haware, hclock⟩
      · left
        refine ⟨.clock htype fields hloads hfails, e, ?_⟩
        simp only [parseJsonSensorEvent, hrequire, hdeep, hloads, eventTimestamp, he]
        rfl
      · have hrecord : recordTime F sourceType text = time := recordTime_fields htype hloads htime
        -- of what stops the parser only the severity is left
        have hstops : Stops F sourceType text → time.isSome = true ∧ sourceType = .suricataEve ∧
            textOrElse ((Json.obj fields).get? "event_type") "unknown" = "alert" ∧
            isUnhashable (((Json.obj fields).item "alert").item "severity") = true := by
          intro hs
          cases hs with
          | nesting _ h => simp [hdeep] at h
          | clock _ fields' h hfails =>
            cases hloads.symm.trans h
            exact absurd hfails hclock
          | severity hsuricata fields' h hsome halert hseverity =>
            cases hloads.symm.trans h
            exact ⟨hrecord ▸ hsome, hsuricata, halert, hseverity⟩
        cases time with
        | none =>
          right; left
          refine ⟨fun hs => by simpa using (hstops hs).1, hrecord, ⟨sourceId, sourceType.text, jsonSensorParserVersion,
            "JSON_SENSOR_PARSE_FAILED", hashText text, now⟩, ?_⟩
          simp only [parseJsonSensorEvent, hrequire, hdeep, hloads, eventTimestamp, htime]
          rfl
        | some time =>
          rcases classify_cases fields htype with
            ⟨e, he, hsuricata, halert, hseverity⟩ | ⟨category, severity, hclassify, hcategory, hno⟩
          · left
            refine ⟨.severity hsuricata fields hloads (by rw [hrecord]; rfl) halert hseverity, e, ?_⟩
            simp only [parseJsonSensorEvent, hrequire, hdeep, hloads, eventTimestamp, htime]
            simp only [bind, Except.bind, require, ite_true, he]
          · right; right
            refine ⟨fun hs => hno (hstops hs).2, time,
              recordEvent F sourceId sourceType text jsonSensorParserVersion time category severity, hrecord, haware _ rfl,
              ?_, rfl⟩
            have hversion : compact jsonSensorParserVersion "parser_version" 96 = .ok jsonSensorParserVersion := by
              decide
            have hvalid : (recordEvent F sourceId sourceType text jsonSensorParserVersion time category severity).validate =
                .ok _ :=
              recordEvent_validate hsource (haware _ rfl).1 (haware _ rfl).2 hcategory hversion
            simp only [parseJsonSensorEvent, hrequire, hdeep, hloads, eventTimestamp, htime]
            simp only [bind, Except.bind, require, ite_true, hclassify, hvalid]
            rfl
    · right; left
      have hnone : ∀ fields, (loadsPayload text : Option (Json F)) ≠ some (.obj fields) := fun fields h => hfields ⟨fields, h⟩
      refine ⟨?_, recordTime_noFields htype hnone, ⟨sourceId, sourceType.text, jsonSensorParserVersion,
        "JSON_SENSOR_PARSE_FAILED", hashText text, now⟩, ?_⟩
      · intro hs
        cases hs with
        | nesting _ h => simp [hdeep] at h
        | clock _ fields h _ => exact hnone fields h
        | severity _ fields h _ _ _ => exact hnone fields h
      · simp only [parseJsonSensorEvent, hrequire, hdeep]
        simp only [bind, Except.bind, require, ite_true]
        rfl

theorem not_stops_syslog (text : String) : ¬ Stops F .syslog text := by
  rintro (⟨htype, -⟩ | ⟨htype, -⟩ | ⟨htype, -⟩)
  · exact htype rfl
  · exact htype rfl
  · cases htype

theorem parseRecord_cases (F : Type) [PyRuntime F] [PySensor F] (now : String) {sourceId : String} (sourceType : SourceType)
    (text : String) (hsource : compact sourceId "source_id" 128 = .ok sourceId) :
    (Stops F sourceType text ∧ ∃ e, parseRecord F now sourceId sourceType text = .error e) ∨
    (¬ Stops F sourceType text ∧ recordTime F sourceType text = none ∧
      ∃ q, parseRecord F now sourceId sourceType text = .ok (.quarantined q)) ∨
    (¬ Stops F sourceType text ∧ ∃ time e, recordTime F sourceType text = some time ∧ Aware F time ∧
      parseRecord F now sourceId sourceType text = .ok (.event e) ∧ e.observedAt = PySensor.isoformat F time) := by
  cases sourceType with
  | syslog =>
    right
    have hno := not_stops_syslog (F := F) text
    rcases parseSyslogLine_cases (F := F) hsource with h | h
    · exact .inl ⟨hno, h⟩
    · exact .inr ⟨hno, h⟩
  | suricataEve => exact parseJsonSensorEvent_cases hsource (by decide)
  | zeekJson => exact parseJsonSensorEvent_cases hsource (by decide)

end Outcome

/-! ## The whole batch -/

/-- The times of the events that records give. -/
def eventTimes (F : Type) [PyRuntime F] [PySensor F] (sourceType : SourceType) (records : List ReplayRecord) :
    List DateTime :=
  records.filterMap fun record => recordTime F sourceType record.text

/-- The greatest of the texts that the times are written in is that of a time in UTC. -/
def LatestInUtc (F : Type) [PySensor F] (times : List DateTime) : Prop :=
  ∀ time ∈ times, (∀ other ∈ times, PySensor.isoformat F other ≤ PySensor.isoformat F time) → time.offset = some 0

/-- What `replay_and_parse` is to do with a batch: each record is one event or one quarantined record, and the next
checkpoint is at the end of the batch. -/
def ParsesWhole (F : Type) [PyRuntime F] [PySensor F] (now : String) (source : SourceDescriptor) (sourceType : SourceType)
    (batch : ReplayBatch) (parsed : ParsedReplayBatch) : Prop :=
  (∃ outcomes, List.Forall₂ (fun record outcome =>
      parseRecord F now source.sourceId sourceType record.text = .ok outcome) batch.records outcomes ∧
    parsed.events = outcomes.filterMap ParsedRecord.event? ∧
    parsed.quarantined = outcomes.filterMap (ParsedRecord.quarantined? parsed.nextCheckpoint.checkpointedAt)) ∧
  parsed.nextCheckpoint.cursorOffsetBytes = batch.receipt.nextOffsetBytes

section Batch

variable {F : Type} [PyRuntime F] [PySensor F] {now : String} {source d : SourceDescriptor} {sourceType : SourceType}

theorem eventTimes_aware (hsource : compact d.sourceId "source_id" 128 = .ok d.sourceId) {records : List ReplayRecord}
    {outcomes : List ParsedRecord}
    (h : List.Forall₂ (fun record outcome => parseRecord F now d.sourceId sourceType record.text = .ok outcome)
      records outcomes) :
    (∀ record ∈ records, ¬ Stops F sourceType record.text) ∧ (∀ time ∈ eventTimes F sourceType records, Aware F time) ∧
      (outcomes.filterMap ParsedRecord.event?).map (·.observedAt) =
        (eventTimes F sourceType records).map (PySensor.isoformat F) := by
  induction h with
  | nil => simp [eventTimes]
  | @cons record outcome records outcomes hparse _ ih =>
    obtain ⟨hstops, haware, htexts⟩ := ih
    rw [List.forall_mem_cons]
    rcases parseRecord_cases F now sourceType record.text hsource with
      ⟨-, e, he⟩ | ⟨hno, hnone, q, hq⟩ | ⟨hno, time, e, htime, haware', he, hiso⟩
    · rw [he] at hparse
      cases hparse
    · cases hq.symm.trans hparse
      have htimes : eventTimes F sourceType (record :: records) = eventTimes F sourceType records := by
        simp only [eventTimes, List.filterMap_cons, hnone]
      rw [htimes, List.filterMap_cons_none rfl]
      exact ⟨⟨hno, hstops⟩, haware, htexts⟩
    · cases he.symm.trans hparse
      have htimes : eventTimes F sourceType (record :: records) = time :: eventTimes F sourceType records := by
        simp only [eventTimes, List.filterMap_cons, htime]
      have hevents : (ParsedRecord.event e :: outcomes).filterMap ParsedRecord.event? =
          e :: outcomes.filterMap ParsedRecord.event? := rfl
      rw [htimes, hevents, List.map_cons, List.map_cons, htexts, hiso, List.forall_mem_cons]
      exact ⟨⟨hno, hstops⟩, ⟨haware', haware⟩, rfl⟩

omit [PyRuntime F] in
theorem utcTimestamp_of_latest {times : List DateTime} (haware : ∀ time ∈ times, Aware F time) {m : String}
    (hmax : (times.map (PySensor.isoformat F)).max? = some m) :
    (∃ t, utcTimestamp m "last_event_at" = .ok t) ↔ LatestInUtc F times := by
  obtain ⟨hmem, hgreatest⟩ := List.max?_eq_some_iff.mp hmax
  obtain ⟨time, htime, rfl⟩ := List.mem_map.mp hmem
  have hread : ∀ time ∈ times, PyTime.read (strip (PySensor.isoformat F time)) = some time := by
    intro time htime
    obtain ⟨hrep, hoffset⟩ := haware time htime
    rw [PySensor.strip_isoformat time hrep]
    exact PySensor.read_isoformat time hrep hoffset
  constructor
  · rintro ⟨t, ht⟩ other hother hlatest
    obtain ⟨wall, hwall, -⟩ := utcTimestamp_ok.mp ht
    have heq : PySensor.isoformat F other = PySensor.isoformat F time :=
      le_antisymm (hgreatest _ (List.mem_map_of_mem hother)) (hlatest time htime)
    rw [← heq, hread other hother, Option.some_inj] at hwall
    rw [hwall]
  · intro hutc
    have hoffset : time.offset = some 0 :=
      hutc time htime fun other hother => hgreatest _ (List.mem_map_of_mem hother)
    obtain ⟨wall, offset⟩ := time
    obtain rfl : offset = some 0 := hoffset
    obtain ⟨t, ht⟩ := PySensor.write_representable (F := F) wall (haware _ htime).1
    exact ⟨t, utcTimestamp_ok.mpr ⟨wall, hread _ htime, ht⟩⟩

theorem replay_validated [PyTime] (r : DeterministicByteReplay) (h : source.validate = .ok d) (bytes : Bytes)
    (checkpoint : Option SourceCheckpoint) : r.replay d bytes checkpoint = r.replay source bytes checkpoint := by
  rw [DeterministicByteReplay.replay, DeterministicByteReplay.replay, SourceDescriptor.validate_validate h, h]

theorem replay_checks [PyTime] (h : r.replay source bytes checkpoint = .ok batch) :
    (∃ d, source.validate = .ok d) ∧ batch.receipt.nextOffsetBytes ≤ bytes.length ∧
      ∃ kept, checkpoint.mapM SourceCheckpoint.validate = .ok kept ∧
        ∀ c ∈ kept, optionalTimestamp c.lastEventAt "last_event_at" = .ok c.lastEventAt := by
  simp only [DeterministicByteReplay.replay, bind_ok, require_ok, pure_ok, ReplayReceipt.validate] at h
  obtain ⟨d, hd, -, -, compatibility, hevaluate, start, -, -, -, scanned, -, fingerprint, -, receipt,
    ⟨-, ⟨-, hnext⟩, -, -, -, -, rfl⟩, rfl⟩ := h
  refine ⟨⟨d, hd⟩, hnext, ?_⟩
  cases checkpoint with
  | none => exact ⟨none, rfl, by simp⟩
  | some c =>
    simp only [evaluate, bind_ok] at hevaluate
    obtain ⟨-, -, -, -, c', hc, -⟩ := hevaluate
    refine ⟨some c', by simp only [Option.mapM_some, hc]; rfl, ?_⟩
    intro kept hkept
    obtain rfl : c' = kept := Option.mem_some_iff.mp hkept
    exact optionalTimestamp_optionalTimestamp (SourceCheckpoint.validate_ok.mp hc).2.2.2.1

theorem replayAndParse_ok {t : String}
    {kept : Option SourceCheckpoint}
    (hformat : supportedFormat source.formatId = some sourceType) (hd : source.validate = .ok d)
    (ht : utcTimestamp checkpointedAt "checkpointed_at" = .ok t)
    (hreplay : r.replay source bytes checkpoint = .ok batch) (hkept : checkpoint.mapM SourceCheckpoint.validate = .ok kept) :
    r.replayAndParse F now source bytes checkpointedAt checkpoint = .ok parsed ↔
      ∃ outcomes next, batch.records.mapM (fun record => parseRecord F now d.sourceId sourceType record.text) = .ok outcomes ∧
        SourceCheckpoint.validate
          { source := d, cursorOffsetBytes := batch.receipt.nextOffsetBytes, observedSizeBytes := bytes.length,
            checkpointedAt := t,
            lastEventAt := ((outcomes.filterMap ParsedRecord.event?).map (·.observedAt)).max?.or
              (if batch.compatibility.action = .resume then kept.bind (·.lastEventAt) else none) } = .ok next ∧
        parsed = ⟨outcomes.filterMap ParsedRecord.event?, outcomes.filterMap (ParsedRecord.quarantined? t), batch, next⟩ := by
  have hprobe : SourceCheckpoint.validate
      { source := source, cursorOffsetBytes := 0, observedSizeBytes := bytes.length, checkpointedAt := checkpointedAt } =
      .ok ⟨d, 0, bytes.length, t, none, sourceCheckpointSchema⟩ := by
    rw [SourceCheckpoint.validate_ok]
    exact ⟨hd, Nat.zero_le _, ht, rfl, rfl, rfl, rfl, rfl⟩
  rw [← replay_validated r hd] at hreplay
  have hcall : r.replayAndParse F now source bytes checkpointedAt checkpoint = (do
      let outcomes ← batch.records.mapM fun record => parseRecord F now d.sourceId sourceType record.text
      let next ← SourceCheckpoint.validate
        { source := d, cursorOffsetBytes := batch.receipt.nextOffsetBytes, observedSizeBytes := bytes.length,
          checkpointedAt := t,
          lastEventAt := ((outcomes.filterMap ParsedRecord.event?).map (·.observedAt)).max?.or
            (if batch.compatibility.action = .resume then kept.bind (·.lastEventAt) else none) }
      return ⟨outcomes.filterMap ParsedRecord.event?, outcomes.filterMap (ParsedRecord.quarantined? t), batch, next⟩) := by
    simp only [DeterministicByteReplay.replayAndParse, hformat, hprobe, orRaise, bind, Except.bind, hreplay, hkept]
    congr 1
    funext outcomes
    cases ((outcomes.filterMap ParsedRecord.event?).map (·.observedAt)).max? <;> rfl
  rw [hcall]
  simp only [bind_ok, pure_ok]
  constructor
  · rintro ⟨outcomes, houtcomes, next, hnext, rfl⟩
    exact ⟨outcomes, next, houtcomes, hnext, rfl⟩
  · rintro ⟨outcomes, next, houtcomes, hnext, rfl⟩
    exact ⟨outcomes, houtcomes, next, hnext, rfl⟩

theorem replayAndParse_returns
    (hformat : supportedFormat source.formatId = some sourceType)
    (htimestamp : ∃ t, utcTimestamp checkpointedAt "checkpointed_at" = .ok t)
    (hreplay : r.replay source bytes checkpoint = .ok batch)
    (hparsed : r.replayAndParse F now source bytes checkpointedAt checkpoint = .ok parsed) :
    (∀ record ∈ batch.records, ¬ Stops F sourceType record.text) ∧
      LatestInUtc F (eventTimes F sourceType batch.records) := by
  obtain ⟨t, ht⟩ := htimestamp
  obtain ⟨⟨d, hd⟩, -, kept, hkept, -⟩ := replay_checks hreplay
  obtain ⟨outcomes, next, houtcomes, hcheckpoint, -⟩ := (replayAndParse_ok hformat hd ht hreplay hkept).mp hparsed
  obtain ⟨hstops, haware, htexts⟩ :=
    eventTimes_aware (compact_compact (SourceDescriptor.validate_ok.mp hd).1) (mapM_ok.mp houtcomes)
  refine ⟨hstops, ?_⟩
  cases hmax : ((eventTimes F sourceType batch.records).map (PySensor.isoformat F)).max? with
  | none =>
    rw [List.max?_eq_none_iff, List.map_eq_nil_iff] at hmax
    intro time htime
    rw [hmax] at htime
    cases htime
  | some m =>
    rw [htexts, hmax] at hcheckpoint
    have hutc := (SourceCheckpoint.validate_ok.mp hcheckpoint).2.2.2.1
    refine (utcTimestamp_of_latest haware hmax).mp ?_
    cases hm : utcTimestamp m "last_event_at" with
    | ok t => exact ⟨t, rfl⟩
    | error e => simp [optionalTimestamp, hm] at hutc

/-- One odd record can block a source. On a batch of a supported source the call returns, each record one event or one
quarantined record and the cursor at the end of the batch, exactly when no record stops its parser and the greatest
event time is in UTC. -/
theorem replayAndParse_whole_iff (r : DeterministicByteReplay) (now : String) (source : SourceDescriptor)
    (sourceType : SourceType) (hformat : supportedFormat source.formatId = some sourceType) (bytes : Bytes)
    (checkpointedAt : String) (htimestamp : ∃ t, utcTimestamp checkpointedAt "checkpointed_at" = .ok t)
    (checkpoint : Option SourceCheckpoint) (batch : ReplayBatch) (hreplay : r.replay source bytes checkpoint = .ok batch) :
    (∃ parsed, r.replayAndParse F now source bytes checkpointedAt checkpoint = .ok parsed ∧ parsed.replay = batch ∧
        ParsesWhole F now parsed.nextCheckpoint.source sourceType batch parsed) ↔
      (∀ record ∈ batch.records, ¬ Stops F sourceType record.text) ∧
        LatestInUtc F (eventTimes F sourceType batch.records) := by
  obtain ⟨⟨d, hd⟩, hnext, kept, hkept, hlast⟩ := replay_checks hreplay
  have hsource : compact d.sourceId "source_id" 128 = .ok d.sourceId :=
    compact_compact (SourceDescriptor.validate_ok.mp hd).1
  constructor
  · rintro ⟨parsed, hparsed, -⟩
    exact replayAndParse_returns hformat htimestamp hreplay hparsed
  · rintro ⟨hstops, hutc⟩
    obtain ⟨t, ht⟩ := htimestamp
    have hreturns : ∀ record ∈ batch.records, ∃ outcome, parseRecord F now d.sourceId sourceType record.text = .ok outcome := by
      intro record hrecord
      rcases parseRecord_cases F now sourceType record.text hsource with ⟨h, -⟩ | ⟨-, -, q, hq⟩ | ⟨-, -, e, -, -, he, -⟩
      · exact absurd h (hstops record hrecord)
      · exact ⟨_, hq⟩
      · exact ⟨_, he⟩
    obtain ⟨outcomes, houtcomes⟩ := mapM_returns hreturns
    obtain ⟨-, haware, htexts⟩ := eventTimes_aware hsource (mapM_ok.mp houtcomes)
    -- the time of the checkpoint: that of the last event, or the one that the checkpoint before had
    have hevent : ∃ last, optionalTimestamp (((outcomes.filterMap ParsedRecord.event?).map (·.observedAt)).max?.or
        (if batch.compatibility.action = .resume then kept.bind (·.lastEventAt) else none)) "last_event_at" = .ok last := by
      rw [htexts]
      cases hmax : ((eventTimes F sourceType batch.records).map (PySensor.isoformat F)).max? with
      | some m =>
        obtain ⟨t, ht⟩ := (utcTimestamp_of_latest haware hmax).mpr hutc
        exact ⟨some t, by simp only [Option.some_or, optionalTimestamp, ht]; rfl⟩
      | none =>
        rw [Option.none_or]
        split
        · cases kept with
          | none => exact ⟨none, rfl⟩
          | some c => exact ⟨_, hlast c rfl⟩
        · exact ⟨none, rfl⟩
    obtain ⟨last, hlast⟩ := hevent
    have hcheckpoint : SourceCheckpoint.validate
        { source := d, cursorOffsetBytes := batch.receipt.nextOffsetBytes, observedSizeBytes := bytes.length,
          checkpointedAt := t,
          lastEventAt := ((outcomes.filterMap ParsedRecord.event?).map (·.observedAt)).max?.or
            (if batch.compatibility.action = .resume then kept.bind (·.lastEventAt) else none) } =
        .ok ⟨d, batch.receipt.nextOffsetBytes, bytes.length, t, last, sourceCheckpointSchema⟩ := by
      rw [SourceCheckpoint.validate_ok]
      exact ⟨SourceDescriptor.validate_validate hd, hnext, utcTimestamp_utcTimestamp ht _, hlast, rfl, rfl, rfl, rfl⟩
    exact ⟨_, (replayAndParse_ok hformat hd ht hreplay hkept).mpr ⟨outcomes, _, houtcomes, hcheckpoint, rfl⟩, rfl,
      ⟨outcomes, mapM_ok.mp houtcomes, rfl, rfl⟩, rfl⟩

end Batch

/-! ### A source of one line -/

theorem replay_line [PyTime] (r : DeterministicByteReplay) {source d : SourceDescriptor} (hsource : source.validate = .ok d)
    {line : Bytes} (hline : newline ∉ line) (hsize : line.length + 1 ≤ r.maxSourceBytes)
    (hshort : line.length + 1 ≤ r.maxRecordBytes) :
    ∃ batch, r.replay source (line ++ [newline]) none = .ok batch ∧ batch.records.map (·.text) = [Utf8.decodeReplace line] := by
  obtain ⟨receipt, hevaluate, hvalid, haction, hoffset⟩ :=
    evaluate_start (SourceDescriptor.validate_validate hsource) (line ++ [newline]).length
  have hcomplete : complete newline (line ++ [newline]) = [line] := by
    rw [complete_cons hline]
    rfl
  obtain ⟨batch, chunk, hreplay, hpre, hwhole, -, -, hrecords, hprogress⟩ :=
    r.replay_spec hsource (show ([] ++ (line ++ [newline]) : Bytes).length ≤ r.maxSourceBytes by simpa using hsize)
      hevaluate hvalid (by simp [haction]) hoffset whole_nil (by
      show ∀ p ∈ complete newline (line ++ [newline]), p.length + 1 ≤ r.maxRecordBytes
      rw [hcomplete]
      simpa using hshort)
  refine ⟨batch, hreplay, ?_⟩
  have hne : complete newline chunk ≠ [] := by
    intro hnil
    refine hprogress (by simp) ?_
    rw [hrecords, hnil]
    rfl
  have hrecord : complete newline chunk = [line] := by
    obtain ⟨ys, hys⟩ := hpre
    have happend : complete newline chunk ++ complete newline ys = [line] := by
      rw [← complete_append hwhole, hys]
      exact hcomplete
    rcases List.append_eq_singleton_iff.mp happend with ⟨hnil, -⟩ | ⟨hone, -⟩
    · exact absurd hnil hne
    · exact hone
  rw [hrecords, hrecord]
  rfl

def sampleTimes : List (String × DateTime) :=
  [("2026-01-01T00:00:00Z", ⟨1767225600000000, some 0⟩), ("2026-01-01T00:00:00+00:00", ⟨1767225600000000, some 0⟩),
   ("2026-01-01T07:00:00+07:00", ⟨1767250800000000, some 25200000000⟩)]

/-- An interpreter, as far as it reads these times. -/
local instance sampleSensor : PySensor WholeFloat where
  read s := (sampleTimes.find? (·.1 = s)).map (·.2)
  write t := if t = 1767225600000000 then some "2026-01-01T00:00:00Z" else none
  representable d := d ∈ sampleTimes.map (·.2)
  isoformat d := if d.offset = some 0 then "2026-01-01T00:00:00+00:00" else "2026-01-01T07:00:00+07:00"
  fromTimestamp x := if x = ⟨1767225600⟩ then .time 1767225600000000 else .refused
  tooDeep _ := false
  loadsUnpaired _ := none
  read_write t s h := by
    obtain ⟨rfl, rfl⟩ := (Option.ite_none_right_eq_some.mp h).imp_right Option.some.inj
    decide
  strip_write t s h := by
    obtain ⟨-, rfl⟩ := (Option.ite_none_right_eq_some.mp h).imp_right Option.some.inj
    decide
  read_representable s d h := by
    obtain ⟨e, he, rfl⟩ := Option.map_eq_some_iff.mp h
    exact List.mem_map_of_mem (List.mem_of_find?_eq_some he)
  fromTimestamp_representable x t h := by
    split at h
    · cases h
      decide
    · cases h
  read_isoformat d h _ := (by decide : ∀ d ∈ sampleTimes.map (·.2), (sampleTimes.find? (·.1 =
    if d.offset = some 0 then "2026-01-01T00:00:00+00:00" else "2026-01-01T07:00:00+07:00")).map (·.2) = some d) d h
  strip_isoformat d _ := by
    split
    · decide
    · decide
  write_representable t h := by
    have ht : t = 1767225600000000 := by simpa [sampleTimes] using h
    exact ⟨_, if_pos ht⟩

def utcLine : Bytes := "<13>2026-01-01T00:00:00Z edge sshd: accepted".toUTF8.toList

def offsetLine : Bytes := "<13>2026-01-01T07:00:00+07:00 edge sshd: accepted".toUTF8.toList

theorem sampleStamp : ∃ t, utcTimestamp "2026-01-01T00:00:00Z" "checkpointed_at" = .ok t :=
  ⟨"2026-01-01T00:00:00Z", utcTimestamp_ok.mpr ⟨1767225600000000, by decide, by decide⟩⟩

theorem replay_sample (line : Bytes) (time : DateTime) (hline : newline ∉ line) (hshort : line.length < 4096)
    (htime : recordTime WholeFloat .syslog (Utf8.decodeReplace line) = some time) :
    ∃ batch, ({} : DeterministicByteReplay).replay sampleSource (line ++ [newline]) none = .ok batch ∧
      eventTimes WholeFloat .syslog batch.records = [time] := by
  obtain ⟨batch, hreplay, htexts⟩ := replay_line {} sampleSource_valid hline
    (Nat.le_trans hshort (by decide)) (Nat.le_trans hshort (by decide))
  refine ⟨batch, hreplay, ?_⟩
  have htimes : eventTimes WholeFloat .syslog batch.records =
      (batch.records.map (·.text)).filterMap (recordTime WholeFloat .syslog) := by
    rw [List.filterMap_map]
    rfl
  rw [htimes, htexts, List.filterMap_cons_some htime]
  rfl

/-- A syslog line with a time in UTC is parsed. -/
theorem replayAndParse_whole_utc : ∃ batch,
    ({} : DeterministicByteReplay).replay sampleSource (utcLine ++ [newline]) none = .ok batch ∧
    ∃ parsed, ({} : DeterministicByteReplay).replayAndParse WholeFloat "" sampleSource (utcLine ++ [newline])
      "2026-01-01T00:00:00Z" none = .ok parsed ∧ parsed.replay = batch ∧
      ParsesWhole WholeFloat "" parsed.nextCheckpoint.source .syslog batch parsed := by
  obtain ⟨batch, hreplay, htimes⟩ := replay_sample utcLine ⟨1767225600000000, some 0⟩ (by decide +kernel)
    (by decide +kernel) (by decide +kernel)
  refine ⟨batch, hreplay, (replayAndParse_whole_iff {} "" sampleSource .syslog (by decide) _ _ sampleStamp none batch
    hreplay).mpr ⟨fun record _ => not_stops_syslog record.text, ?_⟩⟩
  rw [htimes]
  intro time htime _
  rw [List.mem_singleton.mp htime]

/-- A syslog line with a time at an offset of seven hours stops the call. -/
theorem replayAndParse_refuses_offset : ∃ batch,
    ({} : DeterministicByteReplay).replay sampleSource (offsetLine ++ [newline]) none = .ok batch ∧
    ∀ parsed, ({} : DeterministicByteReplay).replayAndParse WholeFloat "" sampleSource (offsetLine ++ [newline])
      "2026-01-01T00:00:00Z" none ≠ .ok parsed := by
  obtain ⟨batch, hreplay, htimes⟩ := replay_sample offsetLine ⟨1767250800000000, some 25200000000⟩ (by decide +kernel)
    (by decide +kernel) (by decide +kernel)
  refine ⟨batch, hreplay, ?_⟩
  intro parsed hparsed
  obtain ⟨-, hutc⟩ := replayAndParse_returns (show supportedFormat sampleSource.formatId = some .syslog by decide) sampleStamp
    hreplay hparsed
  rw [htimes] at hutc
  have hoffset := hutc _ (List.mem_singleton_self _) fun other hother => by rw [List.mem_singleton.mp hother]
  cases hoffset

end SecurityMonitoring

end ThreeAgent
