import GracefulService.Health.Decoding
import GracefulService.Serve.Answer
import Mathlib.Control.Monad.Basic
import Mathlib.Tactic.SplitIfs

/-!
# Health reports on the wire

A text is escaped character by character, and the scanner takes back one escape at a time: whatever
follows the escape of a character, the scanner delivers that character and goes on behind it. Carried
over a whole text this reads every text back, so the JSON of a report decodes to the report, whatever
characters its reason has. The main statement adds that both renderings of a report agree on the status
code, that the plain rendering is the reason itself, and that a report decoded from any text at all has
one spelling that decoding and encoding leave as it is.
-/

namespace GracefulService

namespace Json

/-- The four digits of a control character's escape spell its code point. -/
theorem hexQuad?_control : ∀ n < 0x20,
    hexQuad? '0' '0' (Text.hexDigit (n / 16)) (Text.hexDigit (n % 16)) = some n := by
  decide

/-- An escape of one letter is scanned as the character that it stands for. -/
theorem scanText_short {letter c : Char} (hletter : shortEscape? letter = some c)
    (rest : List Char) : scanText ('\\' :: letter :: rest) = consChar c (scanText rest) := by
  rw [scanText.eq_def]
  simp [hletter]

/-- An escape of four digits outside the pairs is scanned as the character with that code point. -/
theorem scanText_quad {a b c d : Char} {n : Nat} (hquad : hexQuad? a b c d = some n)
    (htrailing : isTrailing n = false) (hleading : isLeading n = false) (rest : List Char) :
    scanText ('\\' :: 'u' :: a :: b :: c :: d :: rest)
      = consChar (Char.ofNat n) (scanText rest) := by
  have hletter : shortEscape? 'u' = none := by decide
  rw [scanText.eq_def]
  simp [hletter, hquad, htrailing, hleading]

/-- A character that needs no escape is scanned as itself. -/
theorem scanText_plain {c : Char} (hquote : c ≠ '"') (hslash : c ≠ '\\')
    (hcontrol : ¬ c.toNat < 0x20) (rest : List Char) :
    scanText (c :: rest) = consChar c (scanText rest) := by
  rw [scanText.eq_def]
  simp [hquote, hslash, hcontrol]

/-- Whatever follows the escape of a character, the scanner delivers the character and goes on there. -/
theorem scanText_escapeChar (c : Char) (rest : List Char) :
    scanText (escapeChar c ++ rest) = consChar c (scanText rest) := by
  unfold escapeChar
  -- One case for each way to write a character.
  split_ifs with hquote hslash hb hf hn hr ht hcontrol
  · subst hquote; exact scanText_short (by decide) rest
  · subst hslash; exact scanText_short (by decide) rest
  · subst hb; exact scanText_short (by decide) rest
  · subst hf; exact scanText_short (by decide) rest
  · subst hn; exact scanText_short (by decide) rest
  · subst hr; exact scanText_short (by decide) rest
  · subst ht; exact scanText_short (by decide) rest
  · have hquad := hexQuad?_control c.toNat hcontrol
    have htrailing : isTrailing c.toNat = false := by unfold isTrailing; grind
    have hleading : isLeading c.toNat = false := by unfold isLeading; grind
    have hscan := scanText_quad hquad htrailing hleading rest
    rw [Char.ofNat_toNat] at hscan
    exact hscan
  · exact scanText_plain hquote hslash hcontrol rest

/-- An escaped text is scanned back up to its closing quote, whatever follows. -/
theorem scanText_escaped (s rest : List Char) :
    scanText (s.flatMap escapeChar ++ '"' :: rest) = .ok (s, rest) := by
  induction s with
  | nil =>
    rw [List.flatMap_nil, List.nil_append, scanText.eq_def]
    rfl
  | cons c s ih =>
    rw [List.flatMap_cons, List.append_assoc, scanText_escapeChar, ih]
    rfl

/-- Nothing but gaps. -/
def Gaps (cs : List Char) : Prop := ∀ c ∈ cs, isGap c = true

/-- Gaps are skipped up to what stands behind them. -/
theorem skipGaps_append {gaps : List Char} (hgaps : Gaps gaps) (rest : List Char) :
    skipGaps (gaps ++ rest) = skipGaps rest :=
  List.dropWhile_append_of_pos hgaps

/-- Gaps may stand behind a whole text. -/
theorem atEnd_gaps {gaps : List Char} (hgaps : Gaps gaps) : atEnd gaps = .ok () := by
  have hnone : skipGaps (gaps ++ []) = [] := skipGaps_append hgaps []
  rw [List.append_nil] at hnone
  rw [atEnd, hnone]
  rfl

/-- What follows a quoted text follows its closing quote. -/
theorem textChars_append (s : String) (rest : List Char) :
    textChars s ++ rest = '"' :: (s.toList.flatMap escapeChar ++ '"' :: rest) := by
  simp [textChars]

end Json

/-- A status is found by its name. -/
theorem Status.ofName?_name (status : Status) : Status.ofName? status.name = some status := by
  cases status <;> decide

namespace Report

open Json

/-- A quoted text is decoded to the text. -/
theorem decodeText_textChars (s : String) (rest : List Char) :
    decodeText (textChars s ++ rest) = .ok (s, rest) := by
  rw [textChars_append]
  have hgaps : skipGaps ('"' :: (s.toList.flatMap escapeChar ++ '"' :: rest))
      = '"' :: (s.toList.flatMap escapeChar ++ '"' :: rest) := rfl
  simp only [decodeText, hgaps, scanText_escaped]
  show Except.ok (String.ofList s.toList, rest) = Except.ok (s, rest)
  rw [String.ofList_toList]

/-- The quoted name of a status is decoded to the status. -/
theorem decodeStatus_name (status : Status) (rest : List Char) :
    decodeStatus (textChars status.name ++ rest) = .ok (status, rest) := by
  have hname : decodeStatusName (textChars status.name ++ rest) = .ok (status, rest) := by
    rw [decodeStatusName, decodeText_textChars]
    simp only [bind, Except.bind, Status.ofName?_name]
    rfl
  rw [textChars_append] at hname ⊢
  exact hname

/-- What stands in front of the name of a field. -/
def fieldLead (first : Bool) : List Char := if first then [] else [',']

/-- The name of a field is delivered with what follows it. -/
theorem decodeNext_name (first : Bool) (name : String) (rest : List Char) :
    decodeNext first (fieldLead first ++ (textChars name ++ rest))
      = .ok (some (name, rest), rest) := by
  have hscan := scanText_escaped name.toList rest
  rw [textChars_append]
  cases first with
  | true =>
    show (scanText (name.toList.flatMap escapeChar ++ '"' :: rest)).bind _ = _
    rw [hscan]
    simp [Except.bind, pure, Except.pure]
  | false =>
    show (scanText (name.toList.flatMap escapeChar ++ '"' :: rest)).bind _ = _
    rw [hscan]
    simp [Except.bind, pure, Except.pure]

/-- A status that is still due is taken from its field. -/
theorem decodeFields_status (fuel : Nat) (status : Status) (reason : Option String) (first : Bool)
    (rest : List Char) :
    decodeFields (fuel + 1) none reason first
        (fieldLead first ++ (textChars "status" ++ ':' :: (textChars status.name ++ rest)))
      = decodeFields fuel (some status) reason false rest := by
  have hcolon : decodeColon (':' :: (textChars status.name ++ rest))
      = .ok (textChars status.name ++ rest) := rfl
  rw [decodeFields, decodeNext_name]
  simp [bind, Except.bind, hcolon, decodeStatus_name]

/-- A reason that is still due is taken from its field. -/
theorem decodeFields_reason (fuel : Nat) (status : Option Status) (reason : String) (first : Bool)
    (rest : List Char) :
    decodeFields (fuel + 1) status none first
        (fieldLead first ++ (textChars "reason" ++ ':' :: (textChars reason ++ rest)))
      = decodeFields fuel status (some reason) false rest := by
  have hcolon : decodeColon (':' :: (textChars reason ++ rest)) = .ok (textChars reason ++ rest) := rfl
  rw [decodeFields, decodeNext_name]
  simp [bind, Except.bind, hcolon, decodeText_textChars]

/-- The end of a table delivers the report once both fields are known. -/
theorem decodeFields_end (fuel : Nat) (status : Status) (reason : String) (rest : List Char) :
    decodeFields (fuel + 1) (some status) (some reason) false ('\x7d' :: rest)
      = .ok (⟨status, reason⟩, rest) := by
  rw [decodeFields]
  rfl

/-- A report is written as a table of its status and its reason. -/
theorem toList_json (report : Report) : report.json.toList =
    '\x7b' :: (fieldLead true ++ (textChars "status" ++ ':' :: (textChars report.status.name ++
      (fieldLead false ++ (textChars "reason" ++ ':' :: (textChars report.reason ++ ['\x7d'])))))) := by
  simp [json, compact, toDocument, compactChars, compactFields, joinWith, fieldLead]

/-- A text that is a table with the fields of a report, and gaps behind it, is decoded to the report. -/
theorem decode_of_fields {text : String} {fields behind : List Char} {report : Report}
    (htext : text.toList = '\x7b' :: fields)
    (hfields : decodeFields (fields.length + 1) none none true fields = .ok (report, behind))
    (hbehind : Gaps behind) : decode text = .ok report := by
  have hopen : skipGaps ('\x7b' :: fields) = '\x7b' :: fields := rfl
  simp only [decode, htext, hopen, hfields, bind, Except.bind, atEnd_gaps hbehind]
  rfl

/-- The JSON of a report decodes to the report. -/
theorem decode_json (report : Report) : decode report.json = .ok report := by
  obtain ⟨fields, htext⟩ : ∃ fields, report.json.toList = '\x7b' :: fields := ⟨_, toList_json report⟩
  have hwritten := (List.cons.inj (htext.symm.trans (toList_json report))).2
  -- Each field takes one turn, and so does the end of the table.
  obtain ⟨fuel, hfuel⟩ : ∃ fuel, fields.length + 1 = fuel + 3 := by
    refine ⟨fields.length - 2, ?_⟩
    rw [hwritten]
    simp [textChars]
    omega
  have hfields : decodeFields (fields.length + 1) none none true fields = .ok (report, []) := by
    rw [hfuel, hwritten, decodeFields_status, decodeFields_reason, decodeFields_end]
  exact decode_of_fields htext hfields fun _ hmem => by cases hmem

/-- A report survives its renderings. Its JSON decodes to the very report, its plain text is the reason
and nothing else, and both have the status code of the probe. A report decoded from any text, however
that text spells it, is decoded again from its own JSON, and what is decoded there is encoded as the
same JSON. -/
theorem renderings_faithful :
    (∀ (status : Status) (reason : String) (probe : Probe),
      decode ((⟨status, reason⟩ : Report).respond probe .json).body = .ok ⟨status, reason⟩ ∧
      ((⟨status, reason⟩ : Report).respond probe .text).body = reason ∧
      ((⟨status, reason⟩ : Report).respond probe .json).status = probe.code status ∧
      ((⟨status, reason⟩ : Report).respond probe .text).status = probe.code status) ∧
    ∀ (text : String) (report : Report), decode text = .ok report →
      decode report.json = .ok report ∧
      ∀ again, decode report.json = .ok again → again.json = report.json := by
  constructor
  · intro status reason probe
    have hdecode : decode (⟨status, reason⟩ : Report).json = .ok ⟨status, reason⟩ :=
      decode_json ⟨status, reason⟩
    exact ⟨hdecode, rfl, rfl, rfl⟩
  · intro text report _
    have hdecode : decode report.json = .ok report := decode_json report
    refine ⟨hdecode, ?_⟩
    intro again hagain
    rw [hdecode] at hagain
    cases hagain
    rfl

/-- A report in a sequence, its reason spelled with a pair of code units and an escaped control character,
is written as a table that keeps the one as it is and escapes the other. -/
theorem renderings_faithful_sequence :
    decode "[\"Failed\", \"\\ud83d\\ude00 \\u0007\"]" = .ok ⟨.failed, "😀 \x07"⟩ ∧
    decode "\x7b\"status\":\"Failed\",\"reason\":\"😀 \\u0007\"\x7d" = .ok ⟨.failed, "😀 \x07"⟩ := by
  have hdecode : decode "[\"Failed\", \"\\ud83d\\ude00 \\u0007\"]" = .ok ⟨.failed, "😀 \x07"⟩ := by
    decide +kernel
  have hjson : (⟨.failed, "😀 \x07"⟩ : Report).json
      = "\x7b\"status\":\"Failed\",\"reason\":\"😀 \\u0007\"\x7d" := by
    decide +kernel
  have hagain := (renderings_faithful.2 _ _ hdecode).1
  rw [hjson] at hagain
  exact ⟨hdecode, hagain⟩

end Report
end GracefulService
