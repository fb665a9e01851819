import LxdApi.Json
import LxdApi.Library.JsonText
import LxdApi.Library.Writers

set_option autoImplicit false

/- The log: one JSON object for every record, under the id of the request in whose context
   the record is made. The tasks of the server take turns; a record is written in one piece. -/
namespace LxdApi
open Json

/-- What the formatter takes from a record and from the clock; an exception is carried by its
    formatted traceback. -/
structure LogRecord where
  timestamp : String
  levelname : String
  name : String
  message : String
  excInfo : Option String
deriving DecidableEq

namespace JsonFormatter

def payload (requestId : String) (record : LogRecord) : List (String × String) :=
  [("timestamp", record.timestamp), ("level", record.levelname), ("logger", record.name),
    ("message", record.message)] ++
  (if requestId ≠ "" then [("request_id", requestId)] else []) ++
  (match record.excInfo with
    | some traceback => [("exc_info", traceback)]
    | none => [])

end JsonFormatter

/-- `json.dumps` of a dict of texts. -/
def dumpsTexts (fields : List (String × String)) : String :=
  "\x7b" ++ ", ".intercalate (fields.map fun field => dumpsStr field.1 ++ ": " ++
    dumpsStr field.2) ++ "\x7d"

def JsonFormatter.format (requestId : String) (record : LogRecord) : String :=
  dumpsTexts (JsonFormatter.payload requestId record)

/-- A step of a task, as far as `request_id_ctx` and the log see it. -/
inductive LogStep where
  | set (requestId : String)
  | log (record : LogRecord)
  | reset

structure LogTask where
  requestIdCtx : String
  token : String
  left : List LogStep

namespace LogTask

def next (task : LogTask) : List (String × LogRecord) × LogTask :=
  match task.left with
  | [] => ([], task)
  | .set requestId :: rest => ([], ⟨requestId, task.requestIdCtx, rest⟩)
  | .log record :: rest => ([(task.requestIdCtx, record)], { task with left := rest })
  | .reset :: rest => ([], ⟨task.token, task.token, rest⟩)

end LogTask

/-- What `unhandled_exception_handler` logs. It is called outside `RequestIdMiddleware`. -/
def unhandledRecord (timestamp traceback : String) : LogRecord :=
  ⟨timestamp, "ERROR", "app.errors", "Unhandled exception", some traceback⟩

/-- A request with the records that are made while the application serves it, and when and
    with what traceback an exception of it goes unhandled; or work outside any request. -/
inductive Work where
  | request (header : Option String) (uuid : String) (records : List LogRecord)
      (raised : Option (String × String))
  | background (records : List LogRecord)

namespace Work

/-- The id `RequestIdMiddleware.dispatch` stamps a request with. -/
def stamp (header : Option String) (uuid : String) : String :=
  match header with
  | some given => if given ≠ "" then given else uuid
  | none => uuid

def requestId? : Work → Option String
  | .request header uuid _ _ => some (stamp header uuid)
  | .background _ => none

def unhandled (raised : Option (String × String)) : List LogRecord :=
  raised.toList.map fun error => unhandledRecord error.1 error.2

def steps : Work → List LogStep
  | .request header uuid records raised =>
    .set (stamp header uuid) :: (records.map .log ++ .reset :: (unhandled raised).map .log)
  | .background records => records.map .log

def task (work : Work) : LogTask := ⟨"", "", work.steps⟩

end Work

def stdoutText (entries : List (String × LogRecord)) : String :=
  String.join (entries.map fun entry => JsonFormatter.format entry.1 entry.2 ++ "\n")

section Reading

def entryOf (fields : List (String × String)) : Option (String × LogRecord) := do
  let timestamp ← OrderedMap.get? fields "timestamp"
  let levelname ← OrderedMap.get? fields "level"
  let name ← OrderedMap.get? fields "logger"
  let message ← OrderedMap.get? fields "message"
  return ((OrderedMap.get? fields "request_id").getD "",
    ⟨timestamp, levelname, name, message, OrderedMap.get? fields "exc_info"⟩)

def readLine (line : List Char) : Option (String × LogRecord) := do
  let fields ← JsonText.readRecord line
  entryOf (fields.map fun field => (String.ofList field.1, String.ofList field.2))

def readLog (log : String) : Option (List (String × LogRecord)) :=
  let pieces := log.toList.splitOn '\n'
  if pieces.getLast? = some [] then pieces.dropLast.mapM readLine else none

end Reading

def escaped (c : Char) : List Char := (dumpsChar c).toList

theorem entryOf_payload (requestId : String) (record : LogRecord) :
    entryOf (JsonFormatter.payload requestId record) = some (requestId, record) := by
  obtain ⟨timestamp, levelname, name, message, excInfo⟩ := record
  by_cases stamped : requestId = ""
  · subst stamped
    cases excInfo <;> rfl
  · cases excInfo <;> simp [JsonFormatter.payload, entryOf, stamped]

section Escapes

theorem toLower_hexDigit {n : Nat} (small : n < 16) :
    JsonText.hexDigit? (UriReference.hexDigit n).toLower = some n := by
  revert n
  decide

theorem hex4_hexText {n : Nat} (small : n < 0x10000) :
    ∃ w x y z, (hexText 4 n).toList = [w, x, y, z] ∧ JsonText.hex4? w x y z = some n := by
  have digits : (hexText 4 n).toList = ([3, 2, 1, 0].map fun i =>
      (UriReference.hexDigit (n / 16 ^ i % 16)).toLower) := String.toList_ofList
  refine ⟨_, _, _, _, digits, ?_⟩
  have bound : ∀ i, n / 16 ^ i % 16 < 16 := fun i => Nat.mod_lt _ (by decide)
  simp only [JsonText.hex4?, toLower_hexDigit (bound _), Option.bind_eq_bind, Option.bind_some,
    Option.pure_def, Option.some.injEq]
  omega

theorem units_hex {n : Nat} (small : n < 0x10000) (rest : List Char) :
    JsonText.units (("\\u" ++ hexText 4 n).toList ++ rest) =
      (JsonText.units rest).map fun found => (n :: found.1, found.2) := by
  obtain ⟨w, x, y, z, digits, value⟩ := hex4_hexText small
  have text : ("\\u" ++ hexText 4 n).toList ++ rest = '\\' :: 'u' :: w :: x :: y :: z :: rest := by
    rw [String.toList_append, digits]
    rfl
  rw [text, JsonText.units.eq_def]
  simp only [value]
  cases JsonText.units rest <;> rfl

def Printable (c : Char) : Prop := 32 ≤ c.toNat ∧ c.toNat ≤ 126

theorem escaped_cases (c : Char) :
    (∃ e, escaped c = ['\\', e] ∧ JsonText.short? e = some c.toNat ∧ e ≠ 'u' ∧ Printable e ∧
      c.toNat < 0x10000) ∨
    (escaped c = [c] ∧ c ≠ '"' ∧ c ≠ '\\' ∧ Printable c) ∨
    (escaped c = ("\\u" ++ hexText 4 c.toNat).toList ∧ c.toNat < 0x10000) ∨
    (escaped c = ("\\u" ++ hexText 4 (0xd800 + (c.toNat - 0x10000) / 0x400)).toList ++
        ("\\u" ++ hexText 4 (0xdc00 + (c.toNat - 0x10000) % 0x400)).toList ∧
      0x10000 ≤ c.toNat) := by
  unfold escaped dumpsChar Printable
  by_cases quoteMark : c = '"'
  · subst quoteMark
    exact .inl ⟨'"', by decide⟩
  by_cases backslash : c = '\\'
  · subst backslash
    exact .inl ⟨'\\', by decide⟩
  rw [if_neg (not_or.mpr ⟨quoteMark, backslash⟩)]
  by_cases lf : c = '\n'
  · subst lf
    exact .inl ⟨'n', by decide⟩
  by_cases cr : c = '\r'
  · subst cr
    exact .inl ⟨'r', by decide⟩
  by_cases tab : c = '\t'
  · subst tab
    exact .inl ⟨'t', by decide⟩
  rw [if_neg lf, if_neg cr, if_neg tab]
  by_cases back : c.toNat = 8
  · rw [if_pos back, back]
    exact .inl ⟨'b', by decide⟩
  by_cases feed : c.toNat = 12
  · rw [if_neg back, if_pos feed, feed]
    exact .inl ⟨'f', by decide⟩
  rw [if_neg back, if_neg feed]
  by_cases shown : 32 ≤ c.toNat ∧ c.toNat ≤ 126
  · rw [if_pos shown, String.toList_ofList]
    exact .inr (.inl ⟨rfl, quoteMark, backslash, shown⟩)
  rw [if_neg shown]
  by_cases small : c.toNat < 0x10000
  · rw [if_pos small]
    exact .inr (.inr (.inl ⟨rfl, small⟩))
  · rw [if_neg small, String.append_assoc, String.toList_append]
    exact .inr (.inr (.inr ⟨rfl, by omega⟩))

theorem escaped_lawful : JsonText.Lawful escaped := by
  intro c rest
  have bounds := JsonText.char_bounds c
  rcases escaped_cases c with
    ⟨e, text, short, other, _, small⟩ | ⟨text, quoteMark, backslash, shown⟩ |
    ⟨text, small⟩ | ⟨text, large⟩
  · rw [text, List.cons_append, List.singleton_append, JsonText.units.eq_def, JsonText.utf16,
      if_pos small]
    simp only [other, short, if_false]
    cases JsonText.units rest <;> rfl
  · rw [text, List.singleton_append, JsonText.units.eq_def]
    simp only [quoteMark, backslash, Nat.not_lt.mpr shown.1, if_false]
  · rw [text, units_hex small, JsonText.utf16, if_pos small]
    rfl
  · -- a character outside the basic plane is written as its two surrogates
    rw [text, List.append_assoc, units_hex (by omega), units_hex (by omega), JsonText.utf16,
      if_neg (by omega)]
    cases JsonText.units rest <;> rfl

theorem hexDigit_printable {n : Nat} (small : n < 16) :
    Printable (UriReference.hexDigit n).toLower := by
  unfold Printable
  revert n
  decide

theorem units_printable (n : Nat) : ∀ c ∈ ("\\u" ++ hexText 4 n).toList, Printable c := by
  have mark : ∀ c ∈ "\\u".toList, Printable c := by simp [Printable]
  intro c inside
  rw [String.toList_append] at inside
  rcases List.mem_append.mp inside with first | digit
  · exact mark c first
  · rw [hexText, String.toList_ofList] at digit
    obtain ⟨i, _, rfl⟩ := List.mem_map.mp digit
    exact hexDigit_printable (Nat.mod_lt _ (by decide))

theorem escaped_printable (c : Char) : ∀ d ∈ escaped c, Printable d := by
  rcases escaped_cases c with
    ⟨e, text, _, _, shown, _⟩ | ⟨text, _, _, shown⟩ | ⟨text, _⟩ | ⟨text, _⟩
  · rw [text]
    exact List.forall_mem_cons.mpr ⟨⟨by decide, by decide⟩, List.forall_mem_singleton.mpr shown⟩
  · rw [text]
    exact List.forall_mem_singleton.mpr shown
  · rw [text]
    exact units_printable _
  · rw [text]
    exact List.forall_mem_append.mpr ⟨units_printable _, units_printable _⟩

end Escapes

section Lines

def spelled (field : String × String) : List Char × List Char := (field.1.toList, field.2.toList)

theorem dumpsStr_toList (s : String) :
    (dumpsStr s).toList = JsonText.writeString escaped s.toList := by
  have mark : "\"".toList = ['"'] := rfl
  have inner : (s.toList.map dumpsChar).flatMap String.toList = s.toList.flatMap escaped :=
    List.flatMap_map ..
  rw [dumpsStr, String.toList_append, String.toList_append, String.toList_join, mark, inner]
  rfl

theorem dumpsTexts_toList (fields : List (String × String)) :
    (dumpsTexts fields).toList = JsonText.writeRecord escaped (fields.map spelled) := by
  have one : ∀ field : String × String, (dumpsStr field.1 ++ ": " ++ dumpsStr field.2).toList =
      JsonText.writeMember escaped (spelled field) := by
    intro field
    rw [String.toList_append, String.toList_append, dumpsStr_toList, dumpsStr_toList]
    rfl
  have all : ", ".toList.intercalate ((fields.map fun field =>
      dumpsStr field.1 ++ ": " ++ dumpsStr field.2).map String.toList) =
      JsonText.writeMembers escaped (fields.map spelled) := by
    rw [List.map_map]
    induction fields with
    | nil => rfl
    | cons field rest ih =>
      cases rest with
      | nil =>
        rw [List.map_singleton, List.intercalate_singleton]
        exact one field
      | cons next more =>
        simp only [List.map_cons, Function.comp_apply, List.intercalate_cons_cons,
          JsonText.writeMembers, one] at ih ⊢
        rw [ih]
        rfl
  rw [dumpsTexts, String.toList_append, String.toList_append, String.toList_intercalate, all]
  rfl

theorem format_printable (requestId : String) (record : LogRecord) :
    ∀ c ∈ (JsonFormatter.format requestId record).toList, Printable c := by
  rw [JsonFormatter.format, dumpsTexts_toList]
  refine JsonText.forall_mem_writeRecord ?_ escaped_printable _
  simp [Printable]

theorem readLine_format (requestId : String) (record : LogRecord) :
    readLine (JsonFormatter.format requestId record).toList = some (requestId, record) := by
  have back : ((JsonFormatter.payload requestId record).map spelled).map
      (fun field => (String.ofList field.1, String.ofList field.2)) =
      JsonFormatter.payload requestId record := by
    rw [List.map_map]
    refine (List.map_congr_left ?_).trans (List.map_id _)
    intro field _
    simp only [Function.comp_apply, spelled, String.ofList_toList, id]
  rw [readLine, JsonFormatter.format, dumpsTexts_toList, JsonText.readRecord_write escaped_lawful]
  simp only [Option.bind_eq_bind, Option.bind_some, back, entryOf_payload]

theorem stdoutText_toList (entries : List (String × LogRecord)) :
    (stdoutText entries).toList = JsonText.lines
      (entries.map fun entry => (JsonFormatter.format entry.1 entry.2).toList) := by
  rw [stdoutText, String.toList_join, List.flatMap_map, JsonText.lines, List.flatMap_map]
  refine List.flatMap_congr ?_
  intro entry _
  rw [String.toList_append]
  rfl

theorem readLog_stdoutText (entries : List (String × LogRecord)) :
    readLog (stdoutText entries) = some entries := by
  have flat : ∀ line ∈ entries.map fun entry => (JsonFormatter.format entry.1 entry.2).toList,
      '\n' ∉ line := by
    intro line inside lf
    obtain ⟨entry, _, rfl⟩ := List.mem_map.mp inside
    exact absurd (format_printable _ _ _ lf) (by unfold Printable; decide)
  have each : (entries.map fun entry => (JsonFormatter.format entry.1 entry.2).toList).mapM
      readLine = some entries := by
    clear flat
    induction entries with
    | nil => rfl
    | cons entry rest ih =>
      simp only [List.map_cons, List.mapM_cons, readLine_format, ih, Option.bind_eq_bind,
        Option.bind_some, Option.pure_def]
  simp only [readLog, stdoutText_toList, JsonText.splitOn_lines flat, List.getLast?_append,
    List.getLast?_singleton, Option.some_or, if_true, List.dropLast_concat, each]

end Lines

section Tasks
variable {ι : Type} [DecidableEq ι]

def logged (work : ι → Work) (schedule : List ι) : List (String × LogRecord) :=
  (Writers.stream LogTask.next (fun i => (work i).task) schedule).map (·.2)

theorem alone_left_nil (context token : String) (n : Nat) :
    Writers.alone LogTask.next ⟨context, token, []⟩ n = [] := by
  induction n with
  | zero => rfl
  | succ n ih => exact ih

theorem alone_records (context token : String) (records : List LogRecord) (rest : List LogStep)
    (n : Nat) :
    Writers.alone LogTask.next ⟨context, token, records.map .log ++ rest⟩ n =
      (records.take n).map (context, ·) ++
        Writers.alone LogTask.next ⟨context, token, rest⟩ (n - records.length) := by
  induction records generalizing n with
  | nil => rw [List.take_nil, List.map_nil, List.map_nil]; rfl
  | cons record others ih =>
    cases n with
    | zero => rw [Nat.zero_sub]; rfl
    | succ n =>
      have first : Writers.alone LogTask.next
          ⟨context, token, (record :: others).map .log ++ rest⟩ (n + 1) =
          (context, record) :: Writers.alone LogTask.next
            ⟨context, token, others.map .log ++ rest⟩ n := rfl
      rw [first, ih, List.length_cons, Nat.add_sub_add_right]
      rfl

theorem alone_background (records : List LogRecord) (n : Nat) :
    Writers.alone LogTask.next (Work.background records).task n =
      (records.take n).map ("", ·) := by
  have all := alone_records "" "" records [] n
  rw [List.append_nil, alone_left_nil, List.append_nil] at all
  exact all

theorem alone_request (header : Option String) (uuid : String) (records : List LogRecord)
    (raised : Option (String × String)) (n : Nat) :
    Writers.alone LogTask.next (Work.request header uuid records raised).task n =
      (records.take (n - 1)).map (Work.stamp header uuid, ·) ++
        ((Work.unhandled raised).take (n - 2 - records.length)).map ("", ·) := by
  cases n with
  | zero => rw [Nat.zero_sub, Nat.zero_sub]; rfl
  | succ n =>
    have stamped : Writers.alone LogTask.next (Work.request header uuid records raised).task
        (n + 1) = Writers.alone LogTask.next ⟨Work.stamp header uuid, "",
          records.map .log ++ .reset :: (Work.unhandled raised).map .log⟩ n := rfl
    rw [stamped, alone_records]
    have last : ∀ m, Writers.alone LogTask.next ⟨Work.stamp header uuid, "",
        .reset :: (Work.unhandled raised).map .log⟩ m =
        ((Work.unhandled raised).take (m - 1)).map ("", ·) := by
      intro m
      cases m with
      | zero => rfl
      | succ m =>
        exact alone_background (Work.unhandled raised) m
    have turns : n + 1 - 2 - records.length = n - records.length - 1 := by omega
    rw [last, turns, Nat.add_sub_cancel]

theorem alone_stamped (work : Work) (n : Nat) (entry : String × LogRecord)
    (inside : entry ∈ Writers.alone LogTask.next work.task n) :
    entry.1 = "" ∨ work.requestId? = some entry.1 := by
  cases work with
  | request header uuid records raised =>
    rw [alone_request] at inside
    rcases List.mem_append.mp inside with served | late
    · obtain ⟨record, _, rfl⟩ := List.mem_map.mp served
      exact .inr rfl
    · obtain ⟨record, _, rfl⟩ := List.mem_map.mp late
      exact .inl rfl
  | background records =>
    rw [alone_background] at inside
    obtain ⟨record, _, rfl⟩ := List.mem_map.mp inside
    exact .inl rfl

theorem stamp_ne {header : Option String} {uuid : String} (fresh : uuid ≠ "") :
    Work.stamp header uuid ≠ "" := by
  unfold Work.stamp
  cases header with
  | none => exact fresh
  | some given =>
    dsimp only
    split_ifs with there
    · exact there
    · exact fresh

theorem logged_of_request {work : ι → Work} {i : ι} {header : Option String} {uuid : String}
    {records : List LogRecord} {raised : Option (String × String)}
    (serves : work i = .request header uuid records raised) (fresh : uuid ≠ "")
    (own : ∀ j, (work j).requestId? = (work i).requestId? → j = i) (schedule : List ι) :
    (logged work schedule).filter (fun entry => entry.1 = Work.stamp header uuid) =
      (records.take (schedule.count i - 1)).map (Work.stamp header uuid, ·) := by
  have stamped := @stamp_ne header uuid fresh
  have only : ∀ j entry, entry ∈ Writers.alone LogTask.next (work j).task (schedule.count j) →
      decide (entry.1 = Work.stamp header uuid) = true → j = i := by
    intro j entry inside carries
    have carries := of_decide_eq_true carries
    rcases alone_stamped (work j) _ entry inside with none | its
    · exact absurd (carries.symm.trans none) stamped
    · refine own j ?_
      rw [its, serves, carries]
      rfl
  rw [logged, Writers.filter_stream LogTask.next only, serves, alone_request, List.filter_append]
  have served : ∀ entry ∈ (records.take (schedule.count i - 1)).map (Work.stamp header uuid, ·),
      decide (entry.1 = Work.stamp header uuid) = true := by
    intro entry inside
    obtain ⟨record, _, rfl⟩ := List.mem_map.mp inside
    exact decide_eq_true rfl
  have late : ((((Work.unhandled raised).take (schedule.count i - 2 - records.length)).map
      ("", ·)).filter fun entry => entry.1 = Work.stamp header uuid) = [] := by
    refine List.filter_eq_nil_iff.mpr ?_
    intro entry inside
    obtain ⟨record, _, rfl⟩ := List.mem_map.mp inside
    simp only [decide_eq_true_eq]
    exact Ne.symm stamped
  rw [List.filter_eq_self.mpr served, late, List.append_nil]

theorem mem_logged {work : ι → Work} {schedule : List ι} {entry : String × LogRecord}
    (inside : entry ∈ logged work schedule) :
    entry.1 = "" ∨ ∃ j ∈ schedule, (work j).requestId? = some entry.1 := by
  obtain ⟨⟨j, made⟩, written, same⟩ := List.mem_map.mp inside
  obtain rfl : made = entry := same
  have alone := Writers.mem_alone_of_mem_stream _ written
  have took : j ∈ schedule := by
    refine List.count_pos_iff.mp (Nat.pos_of_ne_zero ?_)
    intro none
    rw [none] at alone
    cases alone
  exact (alone_stamped (work j) _ made alone).imp_right fun its => ⟨j, took, its⟩

theorem logged_unhandled {work : ι → Work} {i : ι} {header : Option String} {uuid : String}
    {records : List LogRecord} {timestamp traceback : String}
    (raises : work i = .request header uuid records (some (timestamp, traceback)))
    {schedule : List ι} (ended : records.length + 2 < schedule.count i) :
    ("", unhandledRecord timestamp traceback) ∈ logged work schedule := by
  have own : ("", unhandledRecord timestamp traceback) ∈
      Writers.own i (Writers.stream LogTask.next (fun i => (work i).task) schedule) := by
    rw [Writers.own_stream, raises, alone_request]
    refine List.mem_append_right _ (List.mem_map.mpr ⟨_, ?_, rfl⟩)
    have turns : schedule.count i - 2 - records.length =
        (schedule.count i - 3 - records.length) + 1 := by omega
    rw [turns]
    exact List.mem_cons_self
  obtain ⟨entry, written, same⟩ := List.mem_map.mp own
  exact List.mem_map.mpr ⟨entry, (List.mem_filter.mp written).1, same⟩

/-- Whatever the texts that are logged, and however the tasks take turns, the standard output
    reads as records under the ids of the requests that made them; the lines under the id of a
    request that no other one has are what the application logged while serving it, in that
    order, and the line about its unhandled exception is there without the id. -/
theorem log_tells_requests_apart {work : ι → Work} {i : ι} {header : Option String}
    {uuid : String} {records : List LogRecord} {raised : Option (String × String)}
    (serves : work i = .request header uuid records raised) (fresh : uuid ≠ "")
    (own : ∀ j, (work j).requestId? = (work i).requestId? → j = i) (schedule : List ι) :
    readLog (stdoutText (logged work schedule)) = some (logged work schedule) ∧
      (∀ entry ∈ logged work schedule,
        entry.1 = "" ∨ ∃ j ∈ schedule, (work j).requestId? = some entry.1) ∧
      ((logged work schedule).filter fun entry => entry.1 = Work.stamp header uuid).map (·.2) =
        records.take (schedule.count i - 1) ∧
      ∀ timestamp traceback, raised = some (timestamp, traceback) →
        records.length + 2 < schedule.count i →
        ("", unhandledRecord timestamp traceback) ∈ logged work schedule := by
  refine ⟨readLog_stdoutText _, fun entry => mem_logged, ?_, ?_⟩
  · rw [logged_of_request serves fresh own, List.map_map]
    exact List.map_id _
  · intro timestamp traceback raises ended
    subst raises
    exact logged_unhandled serves ended

/-- Two requests, of which one brings its id and has a line feed logged. -/
theorem forged_line_not_read :
    let said : LogRecord := ⟨"2025-01-01T00:00:00+00:00", "WARNING", "app.services.lxd_client",
      "a\n\x7b\"request_id\": \"b\"\x7d", none⟩
    let work : Bool → Work := fun second =>
      if second then .request none "b" [] (some ("2025-01-01T00:00:01+00:00", "boom"))
      else .request (some "a") "c" [said, said] none
    let entries := logged work [false, true, false, true, false, true]
    readLog (stdoutText entries) = some entries ∧
      (entries.filter fun entry => entry.1 = "a").map (·.2) = [said, said] := by
  intro said work entries
  obtain ⟨read, _, own, _⟩ := @log_tells_requests_apart Bool _ work false _ _ _ _
    rfl (by decide) (by intro j same; cases j with
      | false => rfl
      | true => exact absurd same (by decide)) [false, true, false, true, false, true]
  exact ⟨read, own⟩

end Tasks

end LxdApi
