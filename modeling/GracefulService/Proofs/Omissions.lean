import GracefulService.Config.Reading
import GracefulService.Proofs.Printed
import GracefulService.Proofs.Sections
import Mathlib.Logic.Relation

/-!
# What a configuration may leave out

A configuration written in full can be shortened by every value that is the usual one, lengthened by
names that mean nothing, and put into another order, in each of its sections and on its outside, as
often as one likes. One such change is an `Edit`. It leaves each value as it is once what is absent is
filled in, so what is decoded stays, and by induction any number of changes leave it. What a reader makes
of the printed text is one of the changed forms, with the names in another order.

Names that mean nothing may have any value. A section that may be absent is null when it is left out;
present without any values it is a section of usual values.
-/

namespace GracefulService

/-! ## Changes to a table -/

/-- A change to the fields of a section that has the given usual values. -/
inductive FieldEdit (usual : List (String × Document)) :
    List (String × Document) → List (String × Document) → Prop
  /-- A value that is the usual one is left out. -/
  | leaveOut {name : String} {value : Document} {before after : List (String × Document)}
      (husual : (name, value) ∈ usual) (honce : name ∉ (before ++ after).map Prod.fst) :
      FieldEdit usual (before ++ (name, value) :: after) (before ++ after)
  /-- A name that the section does not know is added somewhere, with any value. -/
  | add {name : String} (value : Document) {before after : List (String × Document)}
      (hunknown : name ∉ usual.map Prod.fst) :
      FieldEdit usual (before ++ after) (before ++ (name, value) :: after)
  /-- The fields change places. -/
  | reorder {fields others : List (String × Document)} (hnodup : (fields.map Prod.fst).Nodup)
      (hperm : fields.Perm others) : FieldEdit usual fields others

/-- A change to the fields of a section leaves each of its values as it is, once what is absent is filled
in. -/
theorem FieldEdit.filled_eq {usual fields fields' : List (String × Document)}
    (hnames : (usual.map Prod.fst).Nodup) (hedit : FieldEdit usual fields fields')
    {entry : String × Document} (hentry : entry ∈ usual) : filled fields' entry = filled fields entry := by
  unfold filled
  cases hedit with
  | @leaveOut name value before after husual honce =>
    by_cases hname : entry.1 = name
    · have hbefore : name ∉ before.map Prod.fst := fun hmem => honce (by simp_all)
      -- each name has one usual value, so the value that is left out is the one that is filled in
      have hvalue : usual.lookup name = some entry.2 := (lookup_eq_some_iff_mem hnames).2 (hname ▸ hentry)
      have hequal : entry.2 = value := by
        rw [(lookup_eq_some_iff_mem hnames).2 husual] at hvalue
        exact (Option.some.inj hvalue).symm
      rw [hname, lookup_of_not_mem honce, lookup_insert_self hbefore, hequal]
      rfl
    · rw [lookup_insert_of_ne hname]
  | @add name value before after hunknown =>
    have hne : entry.1 ≠ name := fun heq => hunknown (heq ▸ List.mem_map_of_mem hentry)
    rw [lookup_insert_of_ne hne]
  | reorder hnodup hperm => rw [lookup_perm hnodup hperm]

/-! ## Changes to a configuration -/

namespace Config

variable (surplus : Surplus)

/-- The sections that a configuration may hold, each with its usual values. -/
def sections : List (String × List (String × Document)) := [
  ("listener", Listener.anywhere.toDocument.fields),
  ("management", Listener.anywhere.toDocument.fields),
  ("probes", ProbePaths.usual.toDocument.fields),
  ("drain", DrainTimes.usual.toDocument.fields),
  ("markdown", MarkdownRoute.usual.toDocument.fields),
  ("observability", Observability.usual.toDocument.fields)]

/-- A change to a configuration as it is written, to its outside or inside one of its sections. -/
inductive Edit : Document → Document → Prop
  /-- A change to the sections that are there, or to names beside them. -/
  | outside {fields fields' : List (String × Document)}
      (hedit : FieldEdit Config.usual.toDocument.fields fields fields') :
      Edit (.table fields) (.table fields')
  /-- A change to the values of one section. -/
  | inside {name : String} {usual inner inner' before after : List (String × Document)}
      (hsection : (name, usual) ∈ sections) (hedit : FieldEdit usual inner inner') :
      Edit (.table (before ++ (name, .table inner) :: after))
        (.table (before ++ (name, .table inner') :: after))

/-- Inside a section every name has one usual value. -/
theorem nodup_of_mem_sections : ∀ entry ∈ sections, (entry.2.map Prod.fst).Nodup := by
  simp [sections, Listener.toDocument, ProbePaths.toDocument, DrainTimes.toDocument,
    MarkdownRoute.toDocument, Observability.toDocument, Document.fields]

/-- One change leaves what is decoded as it is. -/
theorem Edit.decode?_eq {document document' : Document} (hedit : Edit document document') :
    Config.decode? surplus document' = Config.decode? surplus document := by
  cases hedit with
  | outside hedit =>
    have hnames : (usual.toDocument.fields.map Prod.fst).Nodup := by
      simp [usual, toDocument, Document.fields]
    exact readsFilled surplus _ _ fun entry hentry => hedit.filled_eq hnames hentry
  | @inside name usual inner inner' before after hsection hedit =>
    have hfilled : ∀ entry ∈ usual, filled inner' entry = filled inner entry :=
      fun entry hentry => hedit.filled_eq (nodup_of_mem_sections _ hsection) hentry
    simp only [sections, List.mem_cons, Prod.mk.injEq, List.not_mem_nil, or_false] at hsection
    -- One case for each section; in each the other sections have other names.
    rcases hsection with ⟨rfl, rfl⟩ | ⟨rfl, rfl⟩ | ⟨rfl, rfl⟩ | ⟨rfl, rfl⟩ | ⟨rfl, rfl⟩ | ⟨rfl, rfl⟩
    · have h := Listener.readsFilled surplus _ _ hfilled
      exact decode?_replace surplus before after (fun _ => h) (by simp) (by simp) (by simp) (by simp)
    · have h := Listener.readsFilled surplus _ _ hfilled
      exact decode?_replace surplus before after (fun _ => h) (by simp) (by simp) (by simp) (by simp)
    · have h := ProbePaths.readsFilled surplus _ _ hfilled
      exact decode?_replace surplus before after (by simp) (fun _ => h) (by simp) (by simp) (by simp)
    · have h := DrainTimes.readsFilled surplus _ _ hfilled
      exact decode?_replace surplus before after (by simp) (by simp) (fun _ => h) (by simp) (by simp)
    · have h := MarkdownRoute.readsFilled surplus _ _ hfilled
      exact decode?_replace surplus before after (by simp) (by simp) (by simp) (fun _ => h) (by simp)
    · have h := Observability.readsFilled surplus _ _ hfilled
      exact decode?_replace surplus before after (by simp) (by simp) (by simp) (by simp) (fun _ => h)

/-- A document that comes from another by any number of changes. -/
abbrev Edited : Document → Document → Prop := Relation.ReflTransGen Edit

/-- Any number of changes leave what is decoded as it is. -/
theorem Edited.decode?_eq {document document' : Document} (hedited : Edited document document') :
    Config.decode? surplus document' = Config.decode? surplus document := by
  induction hedited with
  | refl => rfl
  | tail _ hedit ih => rw [hedit.decode?_eq surplus, ih]

/-! ## Configurations as text -/

/-- A value whose fields, when it has any, stand in the order in which a reader puts them. -/
def sorted : Document → Document
  | .table fields => .table (Json.inserted [] fields)
  | document => document

/-- A section of simple values is read back with its names in order. -/
theorem readsBack_section {document : Document} {fields : List (String × Document)}
    (htable : document = .table fields) (hvalues : ∀ field ∈ fields, Json.ReadsBack 0 field.2 field.2) :
    Json.ReadsBack 1 document (sorted document) := by
  rw [htable]
  exact Json.readsBack_table (List.forall₂_same.2 fun field hfield => ⟨rfl, hvalues field hfield⟩)

/-- A surface whose port fits is read back. -/
theorem readsBack_listener {listener : Listener} (hport : listener.port < Net.portLimit) :
    Json.ReadsBack 1 listener.toDocument (sorted listener.toDocument) := by
  have hword : Net.portLimit ≤ Number.wordLimit := by decide
  refine readsBack_section rfl ?_
  simp only [List.forall_mem_cons, List.not_mem_nil, false_implies, implies_true, and_true]
  exact ⟨Json.readsBack_text _, Json.readsBack_integer (Nat.lt_of_lt_of_le hport hword)⟩

/-- A section that may be absent is read back. -/
theorem readsBack_optionalSection {α : Type} {write : α → Document} {value : Option α}
    (hpresent : ∀ a, value = some a → Json.ReadsBack 1 (write a) (sorted (write a))) :
    Json.ReadsBack 1 (optionalSection write value) (sorted (optionalSection write value)) := by
  cases value with
  | none => exact Json.readsBack_null.mono (Nat.zero_le 1)
  | some a => exact hpresent a rfl

/-- The sections of a configuration whose numbers fit are read back one by one. -/
theorem readsBack_sections {config : Config} (hfits : config.Fits) :
    ∀ field ∈ config.toDocument.fields, Json.ReadsBack 1 field.2 (sorted field.2) := by
  simp only [toDocument, Document.fields, List.forall_mem_cons, List.not_mem_nil, false_implies,
    implies_true, and_true]
  refine ⟨readsBack_listener hfits.listener,
    readsBack_optionalSection fun listener hsome => readsBack_listener (hfits.management listener hsome),
    readsBack_section rfl ?_, readsBack_section rfl ?_,
    readsBack_optionalSection fun markdown _ => readsBack_section rfl ?_, readsBack_section rfl ?_⟩
  all_goals simp only [List.forall_mem_cons, List.not_mem_nil, false_implies, implies_true, and_true]
  · exact ⟨Json.readsBack_text _, Json.readsBack_text _⟩
  · exact ⟨Json.readsBack_integer hfits.window, Json.readsBack_integer hfits.grace⟩
  · exact ⟨Json.readsBack_text _, Json.readsBack_text _⟩
  · exact ⟨Json.readsBack_text _, Json.readsBack_boolean _, Json.readsBack_boolean _,
      Json.readsBack_text _⟩

/-- A field as it is, or a section whose values have been changed. -/
def SectionEdit (field result : String × Document) : Prop :=
  result = field ∨ ∃ usual inner inner', (field.1, usual) ∈ sections ∧ FieldEdit usual inner inner' ∧
    field.2 = .table inner ∧ result = (field.1, .table inner')

/-- Sections that are changed one by one are changed together. -/
theorem edited_of_sectionEdits {fields results : List (String × Document)}
    (hedits : List.Forall₂ SectionEdit fields results) (before : List (String × Document)) :
    Edited (.table (before ++ fields)) (.table (before ++ results)) := by
  induction hedits generalizing before with
  | nil => exact .refl
  | @cons field result fields results hedit _ ih =>
    have hrest : Edited (.table (before ++ result :: fields)) (.table (before ++ result :: results)) := by
      have := ih (before ++ [result])
      simpa using this
    rcases hedit with rfl | ⟨usual, inner, inner', hsection, hedit, hfield, hresult⟩
    · exact hrest
    · subst hresult
      obtain ⟨name, value⟩ := field
      cases hfield
      exact .head (.inside hsection hedit) hrest

/-- A section with its names in order is a changed section. -/
theorem sectionEdit_sorted {name : String} {fields : List (String × Document)} {document : Document}
    (usual : List (String × Document)) (hsection : (name, usual) ∈ sections) (htable : document = .table fields)
    (hnodup : (fields.map Prod.fst).Nodup) : SectionEdit (name, document) (name, sorted document) := by
  subst htable
  refine .inr ⟨usual, fields, _, hsection, .reorder hnodup ?_, rfl, rfl⟩
  have hperm : ([] ++ fields).Perm (Json.inserted [] fields) := Json.inserted_perm hnodup
  exact hperm

/-- Every section of a configuration becomes a changed section when its names are put in order. -/
theorem sectionEdits_sorted (config : Config) :
    ∀ field ∈ config.toDocument.fields, SectionEdit field (field.1, sorted field.2) := by
  simp only [toDocument, Document.fields, List.forall_mem_cons, List.not_mem_nil, false_implies,
    implies_true, and_true]
  refine ⟨?_, ?_, ?_, ?_, ?_, ?_⟩
  · exact sectionEdit_sorted Listener.anywhere.toDocument.fields (by simp [sections]) rfl (by simp)
  · cases config.management with
    | none => exact .inl rfl
    | some listener =>
      exact sectionEdit_sorted Listener.anywhere.toDocument.fields (by simp [sections]) rfl (by simp)
  · exact sectionEdit_sorted ProbePaths.usual.toDocument.fields (by simp [sections]) rfl (by simp)
  · exact sectionEdit_sorted DrainTimes.usual.toDocument.fields (by simp [sections]) rfl (by simp)
  · cases config.markdown with
    | none => exact .inl rfl
    | some markdown =>
      exact sectionEdit_sorted MarkdownRoute.usual.toDocument.fields (by simp [sections]) rfl (by simp)
  · exact sectionEdit_sorted Observability.usual.toDocument.fields (by simp [sections]) rfl (by simp)

/-- A configuration whose numbers fit is read back from its text, with the names in another order. -/
theorem read_compact_toDocument {config : Config} (hfits : config.Fits) :
    ∃ document, Json.read (Json.compact config.toDocument) = .ok document ∧
      Edited config.toDocument document := by
  let results := config.toDocument.fields.map fun field => (field.1, sorted field.2)
  have hread : Json.FieldsReadBack 1 config.toDocument.fields results :=
    List.forall₂_map_right_iff.2 (List.forall₂_same.2 fun field hfield =>
      ⟨rfl, readsBack_sections hfits field hfield⟩)
  have hedits : List.Forall₂ SectionEdit config.toDocument.fields results :=
    List.forall₂_map_right_iff.2 (List.forall₂_same.2 (sectionEdits_sorted config))
  have hnodup : (results.map Prod.fst).Nodup := by simp [results, toDocument, Document.fields]
  have hperm : ([] ++ results).Perm (Json.inserted [] results) := Json.inserted_perm hnodup
  refine ⟨_, Json.read_compact (Json.readsBack_table hread) (by decide), ?_⟩
  exact (edited_of_sectionEdits hedits []).tail (.outside (.reorder hnodup hperm))

/-- A configuration whose numbers fit is decoded from its document after any number of changes to it, and
the text of the document is read back as a document that comes from it by such changes. Whatever document
a configuration is decoded from, its own document and every changed form of that decode to the same
configuration, are sound or not for the same reasons, and are written as that document again. -/
theorem decode?_edited :
    (∀ config : Config, config.Fits →
      (∀ surplus document, Edited config.toDocument document →
        Config.decode? surplus document = some config) ∧
      ∃ document, Json.read (Json.compact config.toDocument) = .ok document ∧
        Edited config.toDocument document) ∧
    ∀ surplus document config, Config.decode? surplus document = some config →
      ∀ surplus' document', Edited config.toDocument document' →
        Config.decode? surplus' document' = some config ∧
        (Config.decode? surplus' document').map checked = (Config.decode? surplus document).map checked ∧
        (Config.decode? surplus' document').map toDocument = some config.toDocument := by
  have hedited {config : Config} (hfits : config.Fits) (surplus : Surplus) (document : Document)
      (hedited : Edited config.toDocument document) : Config.decode? surplus document = some config := by
    rw [hedited.decode?_eq surplus, decode?_toDocument surplus hfits]
  refine ⟨fun config hfits => ⟨hedited hfits, read_compact_toDocument hfits⟩, ?_⟩
  intro surplus document config hdecode surplus' document' hdocument'
  rw [hedited (fits_of_decode? surplus hdecode) surplus' document' hdocument', hdecode]
  exact ⟨rfl, rfl, rfl⟩

/-- A configuration with a management surface on a port of its own. -/
def managed : Config := { Config.usual with management := some ⟨"0.0.0.0", 9000⟩ }

/-- The same configuration as somebody may write it: the usual host and the absent mark-down route are
left out, and a name that means nothing stands among the sections. -/
def managedShort : Document :=
  .table [
    ("listener", Listener.anywhere.toDocument),
    ("comment", .text "probes on a port of their own"),
    ("management", .table [("port", .integer 9000)]),
    ("probes", ProbePaths.usual.toDocument),
    ("drain", DrainTimes.usual.toDocument),
    ("observability", Observability.usual.toDocument)]

/-- What is left out of the shortened configuration is filled in, and written out again it decodes as
before. -/
theorem decode?_edited_managed :
    Config.decode? .refused managedShort = some managed ∧
      Config.decode? .ignored managed.toDocument = some managed := by
  have hfits : managed.Fits := ⟨by decide, fun listener hsome => by cases hsome; decide, by decide, by decide⟩
  let listener : String × Document := ("listener", Listener.anywhere.toDocument)
  let behind : List (String × Document) := [
    ("probes", ProbePaths.usual.toDocument),
    ("drain", DrainTimes.usual.toDocument)]
  let observability : String × Document := ("observability", Observability.usual.toDocument)
  let full : String × Document := ("management", (Listener.mk "0.0.0.0" 9000).toDocument)
  let short : String × Document := ("management", .table [("port", .integer 9000)])
  have hmarkdown : Edit managed.toDocument (.table (listener :: full :: behind ++ [observability])) :=
    .outside (@FieldEdit.leaveOut _ "markdown" .null (listener :: full :: behind) [observability]
      (by simp [usual, toDocument, Document.fields, optionalSection]) (by decide))
  have hhost : Edit (.table (listener :: full :: behind ++ [observability]))
      (.table (listener :: short :: behind ++ [observability])) :=
    @Edit.inside "management" _ _ _ [listener] (behind ++ [observability]) (.tail _ (.head _))
      (@FieldEdit.leaveOut _ "host" (.text "0.0.0.0") [] [("port", .integer 9000)] (.head _) (by decide))
  have hcomment : Edit (.table (listener :: short :: behind ++ [observability])) managedShort :=
    .outside (@FieldEdit.add _ "comment" (.text "probes on a port of their own") [listener]
      (short :: behind ++ [observability]) (by decide))
  have hedited : Edited managed.toDocument managedShort :=
    ((Relation.ReflTransGen.single hmarkdown).tail hhost).tail hcomment
  have hdecode := (decode?_edited.1 managed hfits).1 .refused managedShort hedited
  exact ⟨hdecode, (decode?_edited.2 .refused managedShort managed hdecode .ignored _ .refl).1⟩

end Config

end GracefulService
