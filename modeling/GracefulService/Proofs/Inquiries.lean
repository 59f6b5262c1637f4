import GracefulService.ProbeClient.Run
import GracefulService.Proofs.Cutting
import GracefulService.Proofs.Printed
import GracefulService.Proofs.Probes

/-!
# What the probe client says about a report

Whatever the probe client can be told to ask can be written on a command line. It asks for the format that it was
told to ask for, and a service that answers with a report chooses that very format. In plain text the client
repeats the reason. In JSON it reads the report as a document, whose names come in order, and lays it out over
several lines: the fields have changed places and gaps stand between the tokens, and still the same report is
decoded. Its exit code and its error output follow the code of the probe alone.

What the transport does to a response is left out, but for the mark of the byte order, which does not belong to
the text behind it.
-/

namespace GracefulService

open Http

namespace CommandLine

/-- An option by its long name, with its value behind an equals sign. -/
def longOption (name value : String) : String := "--" ++ name ++ "=" ++ value

section Long

variable (option : CommandOption) {known : List CommandOption} {value : String}
  (hknown : known.find? (fun other => other.name = option.name) = some option)
  (hname : '=' ∉ option.name.toList) (htakes : option.takes value = true)
include hknown hname htakes

/-- It is read with that value, whatever the value looks like. -/
theorem readArgument_long (rest : List String) :
    readArgument known (longOption option.name value) rest = (.option option.name value, rest) := by
  have hlist : (longOption option.name value).toList
      = '-' :: '-' :: (option.name.toList ++ '=' :: value.toList) := by
    simp [longOption]
  have hsome : (option.name.toList ++ '=' :: value.toList).isEmpty = false := by
    simp
  have hsplit : Text.splitFirst '=' (option.name.toList ++ '=' :: value.toList)
      = some (option.name.toList, value.toList) := Text.splitFirst_append hname value.toList
  simp only [readArgument, hlist, hsome, readLong, hsplit, String.ofList_toList, hknown, withValue, htakes,
    Bool.false_eq_true, if_false, if_true]

/-- Where it is given for the first time, the options go on behind it. -/
theorem readOptions_long {given : List (String × String)} (hnew : given.lookup option.name = none)
    (fuel : Nat) (rest : List String) :
    readOptions known (fuel + 1) given (longOption option.name value :: rest)
      = readOptions known fuel (given ++ [(option.name, value)]) rest := by
  have hargument := readArgument_long option hknown hname htakes rest
  have hother : longOption option.name value ≠ "--" := by
    intro hsame
    have hlist := congrArg String.toList hsame
    simp [longOption] at hlist
  rw [readOptions]
  · simp only [hargument, hnew, Option.isSome_none, Bool.false_eq_true, if_false]
  · intro hsame
    exact absurd hsame hother

end Long

end CommandLine

namespace Json

/-- A line break with what stands before the next line is a gap. -/
theorem gaps_lineBreak (level : Nat) : Gaps (lineBreak level) := by
  intro c hc
  rcases List.mem_cons.1 hc with rfl | hc
  · rfl
  · rw [List.eq_of_mem_replicate hc]
    rfl

/-- One character that may stand in a gap is a gap. -/
theorem gaps_singleton {c : Char} (hgap : isGap c = true) : Gaps [c] := by
  intro other hmem
  rw [List.mem_singleton.1 hmem]
  exact hgap

end Json

namespace Report

open Json

/-! ## Gaps between the tokens of a report -/

section Gaps

variable {gaps : List Char} (hgaps : Gaps gaps)
include hgaps

/-- A gap before a text makes no difference. -/
theorem decodeText_gaps (cs : List Char) : decodeText (gaps ++ cs) = decodeText cs := by
  simp only [decodeText, skipGaps_append hgaps]

/-- A gap before a status makes no difference. -/
theorem decodeStatus_gaps (cs : List Char) : decodeStatus (gaps ++ cs) = decodeStatus cs := by
  simp only [decodeStatus, skipGaps_append hgaps]

/-- A gap before the next field makes no difference. -/
theorem decodeNext_gaps (first : Bool) (cs : List Char) : decodeNext first (gaps ++ cs) = decodeNext first cs := by
  simp only [decodeNext, skipGaps_append hgaps]

/-- Gaps may stand in front of a comma, and of the end of a table. -/
theorem decodeFields_gaps (fuel : Nat) (status : Option Status) (reason : Option String) (first : Bool)
    (cs : List Char) :
    decodeFields fuel status reason first (gaps ++ cs) = decodeFields fuel status reason first cs := by
  cases fuel with
  | zero => rfl
  | succ fuel => rw [decodeFields, decodeFields, decodeNext_gaps hgaps]

/-- Gaps may stand in front of the name of a field. -/
theorem decodeFields_lead (fuel : Nat) (status : Option Status) (reason : Option String) (first : Bool)
    (name : String) (rest : List Char) :
    decodeFields fuel status reason first (fieldLead first ++ (gaps ++ (textChars name ++ rest)))
      = decodeFields fuel status reason first (fieldLead first ++ (textChars name ++ rest)) := by
  cases first with
  | true => exact decodeFields_gaps hgaps fuel status reason true _
  | false =>
    have hnext : decodeNext false (',' :: (gaps ++ (textChars name ++ rest)))
        = decodeNext false (',' :: (textChars name ++ rest)) := by
      simp only [decodeNext, skipGaps_cons (show isGap ',' = false by decide), skipGaps_append hgaps]
    cases fuel with
    | zero => rfl
    | succ fuel =>
      show decodeFields (fuel + 1) status reason false (',' :: (gaps ++ (textChars name ++ rest)))
        = decodeFields (fuel + 1) status reason false (',' :: (textChars name ++ rest))
      rw [decodeFields, decodeFields, hnext]

/-- Gaps may stand in front of a value that somebody looks at. -/
theorem decodeFields_value (fuel : Nat) (status : Option Status) (reason : Option String) (first : Bool)
    {name : String} (hname : name = "status" ∨ name = "reason") (rest : List Char) :
    decodeFields fuel status reason first (fieldLead first ++ (textChars name ++ ':' :: (gaps ++ rest)))
      = decodeFields fuel status reason first (fieldLead first ++ (textChars name ++ ':' :: rest)) := by
  have hcolon : ∀ cs, decodeColon (':' :: cs) = .ok cs := fun _ => rfl
  cases fuel with
  | zero => rfl
  | succ fuel =>
    rcases hname with rfl | rfl <;>
      simp only [decodeFields, decodeNext_name, hcolon, bind, Except.bind, decodeStatus_gaps hgaps,
        decodeText_gaps hgaps, if_true, String.reduceEq, if_false]

end Gaps

/-! ## Reports over several lines -/

/-- A report as a document is read: the names in order. -/
def listed (report : Report) : Document :=
  .table [("reason", .text report.reason), ("status", .text report.status.name)]

/-- A report is read as a document from its JSON. -/
theorem read_json (report : Report) : Json.read report.json = .ok report.listed := by
  have hfields : FieldsReadBack 0 [("status", .text report.status.name), ("reason", .text report.reason)]
      [("status", .text report.status.name), ("reason", .text report.reason)] :=
    .cons ⟨rfl, readsBack_text _⟩ (.cons ⟨rfl, readsBack_text _⟩ .nil)
  have hlisted : inserted [] [("status", .text report.status.name), ("reason", .text report.reason)]
      = [("reason", .text report.reason), ("status", .text report.status.name)] := by
    have horder : "reason" < "status" := by decide
    simp only [inserted, List.foldl_cons, List.foldl_nil, insertField, if_pos horder]
  have hread := read_compact (readsBack_table hfields) (by decide)
  rw [hlisted] at hread
  exact hread

/-- Over several lines the fields stand behind breaks, and the values behind spaces. -/
theorem prettyChars_listed (report : Report) (behind : List Char) : prettyChars 0 report.listed ++ behind =
    '\x7b' :: (fieldLead true ++ (lineBreak 1 ++ (textChars "reason" ++ ':' :: ([' '] ++
      (textChars report.reason ++ (fieldLead false ++ (lineBreak 1 ++ (textChars "status" ++ ':' :: ([' '] ++
        (textChars report.status.name ++ (lineBreak 0 ++ '\x7d' :: behind))))))))))) := by
  simp [listed, prettyChars, prettyFields, block, joinWith, fieldLead]

/-- Laid out over several lines, and with gaps behind it, a report is decoded to the report. -/
theorem decode_pretty (report : Report) {behind : List Char} (hbehind : Gaps behind) :
    decode (pretty report.listed ++ String.ofList behind) = .ok report := by
  have hspace : Gaps [' '] := gaps_singleton rfl
  obtain ⟨fields, hfields⟩ : ∃ fields, prettyChars 0 report.listed ++ behind = '\x7b' :: fields :=
    ⟨_, prettyChars_listed report behind⟩
  have htext : (pretty report.listed ++ String.ofList behind).toList = '\x7b' :: fields := by
    rw [pretty, String.toList_append, String.toList_ofList, String.toList_ofList, hfields]
  have hlines := (List.cons.inj (hfields.symm.trans (prettyChars_listed report behind))).2
  -- The reason comes first here, with breaks in front of the names and a space in front of each value.
  obtain ⟨fuel, hfuel⟩ : ∃ fuel, fields.length + 1 = fuel + 3 := by
    refine ⟨fields.length - 2, ?_⟩
    rw [hlines]
    simp [textChars]
    omega
  have hdecoded : decodeFields (fields.length + 1) none none true fields = .ok (report, behind) := by
    rw [hfuel, hlines, decodeFields_lead (gaps_lineBreak 1), decodeFields_value hspace _ _ _ _ (.inr rfl),
      decodeFields_reason, decodeFields_lead (gaps_lineBreak 1), decodeFields_value hspace _ _ _ _ (.inl rfl),
      decodeFields_status, decodeFields_gaps (gaps_lineBreak 0), decodeFields_end]
  exact decode_of_fields htext hdecoded hbehind

end Report

namespace ProbeClient

/-! ## Command lines -/

section Written

open CommandLine

/-- Arguments as they can be written. -/
def Arguments.written (asked : Arguments) : List String :=
  [longOption "url" asked.base, longOption "format" (formatWord asked.format), asked.question.word,
    longOption "path" asked.path]

/-- The word for a question is no option. -/
theorem readOptions_word (known : List CommandOption) (fuel : Nat) (given : List (String × String))
    (question : Question) (rest : List String) :
    readOptions known (fuel + 1) given (question.word :: rest) = .options given (some question.word) rest := by
  have hargument : readArgument known question.word rest = (.word question.word, rest) := by
    cases question <;> rfl
  rw [readOptions]
  · simp only [hargument]
  · intro hsame
    cases question <;> simp [Question.word] at hsame

/-- Whatever can be asked can be written on a command line. -/
theorem read_written (asked : Arguments) : Command.read asked.written = .ask asked := by
  obtain ⟨base, format, question, path⟩ := asked
  have hurl : readOptions outerOptions 5 [] (Arguments.written ⟨base, format, question, path⟩)
      = readOptions outerOptions 4 [("url", base)]
        [longOption "format" (formatWord format), question.word, longOption "path" path] :=
    readOptions_long ⟨"url", some 'u', fun _ => true⟩ rfl (by decide) rfl rfl 4 _
  have hformat : readOptions outerOptions 4 [("url", base)]
        [longOption "format" (formatWord format), question.word, longOption "path" path]
      = readOptions outerOptions 3 [("url", base), ("format", formatWord format)]
        [question.word, longOption "path" path] :=
    readOptions_long ⟨"format", some 'f', fun word => (formatOfWord? word).isSome⟩ rfl (by decide)
      (by cases format <;> decide) rfl 3 _
  have hpath : CommandLine.read innerOptions [longOption "path" path] = .options [("path", path)] none [] :=
    readOptions_long ⟨"path", none, fun _ => true⟩ rfl (by decide) rfl rfl 1 []
  have hquestion : Question.ofWord? question.word = some question := by
    cases question <;> decide
  have hword : formatOfWord? (formatWord format) = some format := by
    cases format <;> decide
  have houter : CommandLine.read outerOptions (Arguments.written ⟨base, format, question, path⟩)
      = .options [("url", base), ("format", formatWord format)] (some question.word) [longOption "path" path] :=
    hurl.trans (hformat.trans (readOptions_word _ 2 _ question _))
  have hbase : [("url", base), ("format", formatWord format)].lookup "url" = some base := rfl
  have hgiven : [("url", base), ("format", formatWord format)].lookup "format" = some (formatWord format) := rfl
  have hplace : [("path", path)].lookup "path" = some path := rfl
  simp only [Command.read, houter, hquestion, readQuestion, hpath, hbase, hgiven, hplace, Option.bind_some, hword,
    Option.getD_some]

end Written

/-! ## What is asked and what is said -/

/-- A request that reaches a service for an inquiry: it has the method of the inquiry, and welcomes what the
inquiry welcomes. -/
structure Inquiry.Reaches (inquiry : Inquiry) (request : Request) : Prop where
  method : request.method = .standard inquiry.verb
  accept : request.header? "accept" = some inquiry.accept

/-- What goes out for a question has its method and its format. -/
theorem Inquiry.of_make {asked : Arguments} {inquiry : Inquiry} (hmake : Inquiry.make asked = .ok inquiry) :
    inquiry.verb = asked.question.verb ∧ inquiry.accept = acceptOf asked.format := by
  unfold Inquiry.make at hmake
  split at hmake
  · cases hmake
  · split at hmake
    · cases hmake
      exact ⟨rfl, rfl⟩
    · cases hmake

/-- Probes are fetched. -/
theorem verb_ofProbe (probe : Probe) : (Question.ofProbe probe).verb = .get := by
  cases probe <;> rfl

/-- A service chooses the format that the client asks for. -/
theorem negotiate_acceptOf (format : BodyFormat) : BodyFormat.negotiate (some (acceptOf format)) = format := by
  cases format <;> decide +kernel

/-- A client that accepts one format alone is answered in it. -/
theorem bodyFormat_of_accept {request : Request} {format : BodyFormat}
    (haccept : request.header? "accept" = some (acceptOf format)) : request.bodyFormat = format := by
  have hvisible : Request.isVisible (acceptOf format) = true := by
    cases format <;> decide +kernel
  simp only [Request.bodyFormat, Request.visibleHeader?, haccept, hvisible, if_true, negotiate_acceptOf]

/-- A body without a mark of the byte order is a text as it stands. -/
theorem bodyText_eq_self {body : String} (hmark : body.toList.head? ≠ some '\ufeff') : bodyText body = body := by
  unfold bodyText
  split
  · rename_i rest hlist
    rw [hlist] at hmark
    exact absurd rfl hmark
  · rfl

/-- A code of a probe is a success, or that the service is not available. -/
theorem code_cases (probe : Probe) (status : Status) : probe.code status = 200 ∨ probe.code status = 503 := by
  cases probe <;> cases status <;> decide

/-- A service that is not available is reported by its code and the words for it. -/
theorem statusLine_unavailable : statusLine 503 = "503 Service Unavailable" := by
  have hdigits : Text.decimal 503 = ['5', '0', '3'] := by
    simp [Text.decimal, Text.hexDigit]
  rw [statusLine, hdigits]
  decide

/-- The client lays out a report that it gets in JSON. -/
theorem present_json (report : Report) :
    present .json (bodyText report.json) = Json.pretty report.listed := by
  have hmark : report.json.toList.head? ≠ some '\ufeff' := by
    rw [Report.toList_json]
    simp
  rw [bodyText_eq_self hmark, present, report.read_json]

/-- What the client leaves behind when a service answers its question with a report. -/
theorem run_report {arguments : List String} {asked : Arguments} {inquiry : Inquiry}
    (hread : Command.read arguments = .ask asked) (hmake : Inquiry.make asked = .ok inquiry)
    {exchange : Inquiry → Option Response} {response : Response} (hanswer : exchange inquiry = some response) :
    run exchange arguments = ProbeClient.report asked.format inquiry response := by
  simp only [run, hread, perform, ask, hmake, hanswer]

/-- Success or not, the output is the body in the words of the output, on a line. -/
theorem output_report (format : BodyFormat) (inquiry : Inquiry) (response : Response) :
    (ProbeClient.report format inquiry response).output = present format (bodyText response.body) ++ "\n" := by
  unfold ProbeClient.report
  split <;> rfl

/-- The code of a probe decides about the exit code and the error output. -/
theorem exit_report (format : BodyFormat) (inquiry : Inquiry) {response : Response} {probe : Probe}
    {status : Status} (hstatus : response.status = probe.code status) :
    let ending := ProbeClient.report format inquiry response
    ending.exit = (if probe.code status = 200 then 0 else 1)
      ∧ ending.errors
        = (if probe.code status = 200 then "" else "Probe returned status 503 Service Unavailable\n") := by
  intro ending
  have hsuccess : response.isSuccess = decide (probe.code status = 200) := by
    rw [Response.isSuccess, hstatus]
    rcases code_cases probe status with hcode | hcode <;> rw [hcode] <;> rfl
  rcases code_cases probe status with hcode | hcode <;>
    simp [ending, ProbeClient.report, hsuccess, hstatus, hcode, statusLine_unavailable]

/-- Whatever report a service answers a question about a probe with, in the format that the client asks for, the
client says the same. It succeeds exactly where the code of the probe does, and otherwise names that code in one
line of its error output. In plain text its output is the reason on a line, unless a mark of the byte order stands
in front of the reason; in JSON its output decodes to the report. -/
theorem retells_report {arguments : List String} {asked : Arguments} {inquiry : Inquiry} {probe : Probe}
    (hread : Command.read arguments = .ask asked) (hquestion : asked.question = .ofProbe probe)
    (hmake : Inquiry.make asked = .ok inquiry) (report : Report) {surface : Surface} {request : Request}
    (hreaches : inquiry.Reaches request) {exchange : Inquiry → Option Response}
    (hanswer : exchange inquiry
      = some ((report.respond probe request.bodyFormat).leave surface request true none)) :
    let ending := run exchange arguments
    let code := probe.code report.status
    ending.exit = (if code = 200 then 0 else 1)
      ∧ ending.errors = (if code = 200 then "" else "Probe returned status 503 Service Unavailable\n")
      ∧ (asked.format = .text → report.reason.toList.head? ≠ some '\ufeff' →
        ending.output = report.reason ++ "\n")
      ∧ (asked.format = .json → Report.decode ending.output = .ok report) := by
  intro ending code
  obtain ⟨hverb, haccept⟩ := Inquiry.of_make hmake
  have hmethod : request.method = .standard .get := by
    rw [hreaches.method, hverb, hquestion, verb_ofProbe]
  have hformat : request.bodyFormat = asked.format := by
    refine bodyFormat_of_accept ?_
    rw [hreaches.accept, haccept]
  rw [hformat] at hanswer
  obtain ⟨hshows, hstatus⟩ := respond_leave report probe asked.format surface hmethod
  generalize (report.respond probe asked.format).leave surface request true none = response
    at hanswer hshows hstatus
  have hending : ending = ProbeClient.report asked.format inquiry response := run_report hread hmake hanswer
  have houtput : ending.output = present asked.format (bodyText response.body) ++ "\n" := by
    rw [hending, output_report]
  have hsaid := exit_report asked.format inquiry hstatus
  rw [← hending] at hsaid
  refine ⟨hsaid.1, hsaid.2, ?_, ?_⟩
  · intro htext hmark
    have hbody : response.body = report.reason := by
      rw [hshows.body, htext]
    rw [houtput, hbody, htext, present, bodyText_eq_self hmark]
  · intro hjson
    have hbody : response.body = report.json := by
      rw [hshows.body, hjson]
    rw [houtput, hbody, hjson, present_json]
    exact report.decode_pretty (Json.gaps_singleton rfl)

/-- A report whose reason needs escapes. -/
def badDisk : Report := ⟨.failed, "disk \"größe\"\nfull"⟩

/-- A service that answers every inquiry with that report, as readiness. -/
def badDiskService (inquiry : Inquiry) : Option Response :=
  let request : Request := ⟨.standard inquiry.verb, ⟨"/ready", none⟩, [("accept", inquiry.accept)]⟩
  some ((badDisk.respond .readiness request.bodyFormat).leave .management request true none)

/-- Asked in JSON whether such a service is ready, the client fails, says why, and tells the report. -/
theorem retells_badDisk :
    let ending := run badDiskService ["-f", "json", "ready"]
    ending.exit = 1 ∧ ending.errors = "Probe returned status 503 Service Unavailable\n"
      ∧ Report.decode ending.output = .ok badDisk := by
  have hread : Command.read ["-f", "json", "ready"] = .ask ⟨usualBase, .json, .ready, "/ready"⟩ := by
    decide +kernel
  have hmake : Inquiry.make ⟨usualBase, .json, .ready, "/ready"⟩ = .ok
      ⟨.get, ⟨"http", some "localhost", some 8080, "/ready", none, none⟩, "application/json"⟩ := by
    decide +kernel
  have hreaches : Inquiry.Reaches
      ⟨.get, ⟨"http", some "localhost", some 8080, "/ready", none, none⟩, "application/json"⟩
      ⟨.standard .get, ⟨"/ready", none⟩, [("accept", "application/json")]⟩ := ⟨rfl, rfl⟩
  have htold := retells_report hread (show Question.ready = .ofProbe .readiness from rfl) hmake badDisk hreaches
    (show badDiskService _ = some (Response.leave .management _ true none _) from rfl)
  exact ⟨htold.1, htold.2.1, htold.2.2.2 rfl⟩

end ProbeClient

end GracefulService
