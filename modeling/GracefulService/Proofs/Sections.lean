import GracefulService.Config.Decoding
import GracefulService.Config.Encoding
import Mathlib.Data.List.Perm.Basic

/-!
# Sections of a configuration

A section is decoded from nothing but its own values, each replaced by the usual one where it is absent.
Written in full it has every value, so it is decoded as it was written, provided its numbers fit; and the
numbers of whatever is decoded fit. The same holds of the configuration that the sections make up.
-/

namespace GracefulService

/-! ## Values by name -/

section Lookup

variable {name other : String} {value : Document} {before after fields : List (String × Document)}

/-- A field with another name is passed over. -/
theorem lookup_insert_of_ne (hne : name ≠ other) :
    (before ++ (other, value) :: after).lookup name = (before ++ after).lookup name := by
  have hbeq : (name == other) = false := beq_eq_false_iff_ne.2 hne
  rw [List.lookup_append, List.lookup_cons, hbeq, List.lookup_append]

/-- A name that stands nowhere has no value. -/
theorem lookup_of_not_mem (hname : name ∉ fields.map Prod.fst) : fields.lookup name = none := by
  rw [List.lookup_eq_none_iff]
  intro entry hentry
  have hne : entry.1 ≠ name := fun heq => hname (heq ▸ List.mem_map_of_mem hentry)
  exact bne_iff_ne.2 hne.symm

/-- A name that stands once has the value that stands with it. -/
theorem lookup_insert_self (hbefore : name ∉ before.map Prod.fst) :
    (before ++ (name, value) :: after).lookup name = some value := by
  rw [List.lookup_append, lookup_of_not_mem hbefore, Option.none_or, List.lookup_cons_self]

/-- Where each name stands once, a name has a value exactly when the two stand together. -/
theorem lookup_eq_some_iff_mem (hnodup : (fields.map Prod.fst).Nodup) :
    fields.lookup name = some value ↔ (name, value) ∈ fields := by
  constructor
  · intro h
    obtain ⟨before, after, rfl, -⟩ := List.lookup_eq_some_iff.1 h
    exact List.mem_append_right _ (List.mem_cons_self ..)
  · intro h
    obtain ⟨before, after, rfl⟩ := List.append_of_mem h
    rw [List.map_append, List.map_cons, List.nodup_append] at hnodup
    exact lookup_insert_self fun hmem => hnodup.2.2 name hmem name (List.mem_cons_self ..) rfl

/-- Where each name stands once, the order of the fields does not matter. -/
theorem lookup_perm {others : List (String × Document)} (hnodup : (fields.map Prod.fst).Nodup)
    (hperm : fields.Perm others) : others.lookup name = fields.lookup name := by
  have hnodup' : (others.map Prod.fst).Nodup := (hperm.map Prod.fst).nodup_iff.1 hnodup
  refine Option.ext fun value => ?_
  rw [lookup_eq_some_iff_mem hnodup, lookup_eq_some_iff_mem hnodup', hperm.mem_iff]

end Lookup

/-! ## Values and usual values -/

/-- The fields of a table. -/
def Document.fields : Document → List (String × Document)
  | .table fields => fields
  | _ => []

/-- The value of a field, or the usual one where there is none. -/
def filled (fields : List (String × Document)) (entry : String × Document) : Document :=
  (fields.lookup entry.1).getD entry.2

/-- A way to decode a section looks at nothing but the values of the section, with the usual ones filled
in. -/
def ReadsFilled {α : Type} (decode : Document → Option α) (usual : List (String × Document)) : Prop :=
  ∀ fields fields', (∀ entry ∈ usual, filled fields' entry = filled fields entry) →
    decode (.table fields') = decode (.table fields)

/-- A value whose usual one is written down is decoded from what is filled in. -/
theorem valueOr_congr {α : Type} {decode : Document → Option α} {usual : α} {name : String}
    {written : Document} (hwritten : decode written = some usual)
    {fields fields' : List (String × Document)}
    (hfilled : filled fields' (name, written) = filled fields (name, written)) :
    valueOr decode usual name fields' = valueOr decode usual name fields := by
  have hdecode (fields : List (String × Document)) :
      valueOr decode usual name fields = decode (filled fields (name, written)) := by
    unfold valueOr filled
    cases fields.lookup name with
    | none => exact hwritten.symm
    | some value => rfl
  rw [hdecode, hdecode, hfilled]

/-- A value that is decoded alike may stand in the place of another. -/
theorem valueOr_replace {α : Type} {decode : Document → Option α} {usual : α} {name other : String}
    {value value' : Document} (before after : List (String × Document))
    (hdecode : other = name → decode value' = decode value) :
    valueOr decode usual name (before ++ (other, value') :: after) =
      valueOr decode usual name (before ++ (other, value) :: after) := by
  by_cases hname : name = other
  · subst hname
    unfold valueOr
    rw [List.lookup_append, List.lookup_append, List.lookup_cons_self, List.lookup_cons_self]
    cases before.lookup name with
    | none => exact hdecode rfl
    | some value => rfl
  · simp only [valueOr, lookup_insert_of_ne hname]

/-- A value that is written is decoded. -/
theorem valueOr_of_lookup {α : Type} {decode : Document → Option α} {usual a : α} {name : String}
    {fields : List (String × Document)} {value : Document} (hlookup : fields.lookup name = some value)
    (hdecode : decode value = some a) : valueOr decode usual name fields = some a := by
  rw [valueOr, hlookup]
  exact hdecode

/-! ## Sections one by one -/

/-- A text is decoded from its document. -/
theorem decodeText?_text (value : String) : decodeText? (.text value) = some value := rfl

/-- A truth value is decoded from its document. -/
theorem decodeBoolean?_boolean (value : Bool) : decodeBoolean? (.boolean value) = some value := rfl

/-- A number that fits is decoded from its document. -/
theorem decodeBelow?_integer {limit n : Nat} (hfits : n < limit) :
    decodeBelow? limit (.integer n) = some n := by
  simp [decodeBelow?, hfits]

/-- A number that is decoded fits. -/
theorem lt_of_decodeBelow? {limit n : Nat} {document : Document}
    (hdecode : decodeBelow? limit document = some n) : n < limit := by
  cases document with
  | integer value =>
    rw [decodeBelow?] at hdecode
    split at hdecode
    next hbound =>
      cases hdecode
      omega
    next => cases hdecode
  | _ => cases hdecode

/-- What holds of the usual value and of all decoded ones holds of a value. -/
theorem of_valueOr {α : Type} (P : α → Prop) {decode : Document → Option α} {usual a : α} {name : String}
    {values : List (String × Document)} (hvalue : valueOr decode usual name values = some a)
    (husual : P usual) (hdecode : ∀ document a, decode document = some a → P a) : P a := by
  unfold valueOr at hvalue
  cases hlookup : values.lookup name with
  | none =>
    rw [hlookup] at hvalue
    cases hvalue
    exact husual
  | some document =>
    rw [hlookup] at hvalue
    exact hdecode document a hvalue

/-- Null is the document of an absent section. -/
theorem decodeOptional?_null {α : Type} (decode : Document → Option α) :
    decodeOptional? decode .null = some none := rfl

/-- A section that is present is decoded as it would be if it could not be absent. -/
theorem decode_of_decodeOptional? {α : Type} {decode : Document → Option α} {document : Document} {a : α}
    (hdecode : decodeOptional? decode document = some (some a)) : decode document = some a := by
  cases document <;> simp_all [decodeOptional?]

/-- A section that may be absent is decoded from its document, which is no null where it is present. -/
theorem decodeOptional?_optionalSection {α : Type} {decode : Document → Option α} {write : α → Document}
    {value : Option α} (htable : ∀ a, ∃ fields, write a = .table fields)
    (hdecode : ∀ a, value = some a → decode (write a) = some a) :
    decodeOptional? decode (optionalSection write value) = some value := by
  cases value with
  | none => rfl
  | some a =>
    obtain ⟨fields, hfields⟩ := htable a
    have ha : decode (.table fields) = some a := hfields ▸ hdecode a rfl
    simp [optionalSection, hfields, decodeOptional?, ha]

variable (surplus : Surplus)

namespace Listener

/-- A surface as a table. -/
theorem decode?_table (fields : List (String × Document)) :
    Listener.decode? surplus (.table fields) = (do
      let host ← valueOr decodeText? anywhere.host "host" fields
      let port ← valueOr (decodeBelow? Net.portLimit) anywhere.port "port" fields
      return ⟨host, port⟩) := by
  simp only [Listener.decode?, sectionValues?, Option.bind_eq_bind, Option.bind_some]

/-- A surface whose port fits is decoded from its document. -/
theorem decode?_toDocument {listener : Listener} (hport : listener.port < Net.portLimit) :
    Listener.decode? surplus listener.toDocument = some listener := by
  have hhost : valueOr decodeText? anywhere.host "host" listener.toDocument.fields = some listener.host :=
    valueOr_of_lookup rfl (decodeText?_text _)
  have hport : valueOr (decodeBelow? Net.portLimit) anywhere.port "port" listener.toDocument.fields =
      some listener.port :=
    valueOr_of_lookup rfl (decodeBelow?_integer hport)
  have htable : listener.toDocument = .table listener.toDocument.fields := rfl
  rw [htable, decode?_table, hhost, hport]
  rfl

/-- The usual port fits. -/
theorem anywhere_port_lt : anywhere.port < Net.portLimit := by decide

/-- A surface is decoded from what is filled in. -/
theorem readsFilled : ReadsFilled (Listener.decode? surplus) anywhere.toDocument.fields := by
  intro fields fields' hfilled
  simp only [toDocument, Document.fields, List.forall_mem_cons] at hfilled
  obtain ⟨hhost, hport, -⟩ := hfilled
  rw [decode?_table, decode?_table, valueOr_congr (decodeText?_text _) hhost,
    valueOr_congr (decodeBelow?_integer anywhere_port_lt) hport]

/-- The port of a surface that is decoded fits. -/
theorem port_lt_of_decode? {document : Document} {listener : Listener}
    (hdecode : Listener.decode? surplus document = some listener) : listener.port < Net.portLimit := by
  simp only [Listener.decode?, Option.bind_eq_bind, Option.bind_eq_some_iff] at hdecode
  obtain ⟨values, -, host, -, port, hport, hlistener⟩ := hdecode
  cases hlistener
  exact of_valueOr (· < Net.portLimit) hport anywhere_port_lt fun _ _ => lt_of_decodeBelow?

end Listener

namespace ProbePaths

/-- The probe paths as a table. -/
theorem decode?_table (fields : List (String × Document)) :
    ProbePaths.decode? surplus (.table fields) = (do
      let health ← valueOr decodeText? usual.health "health_path" fields
      let ready ← valueOr decodeText? usual.ready "ready_path" fields
      return ⟨health, ready⟩) := by
  simp only [ProbePaths.decode?, sectionValues?, Option.bind_eq_bind, Option.bind_some]

/-- The probe paths are decoded from their document. -/
theorem decode?_toDocument (probes : ProbePaths) :
    ProbePaths.decode? surplus probes.toDocument = some probes := by
  have hhealth : valueOr decodeText? usual.health "health_path" probes.toDocument.fields =
      some probes.health :=
    valueOr_of_lookup rfl (decodeText?_text _)
  have hready : valueOr decodeText? usual.ready "ready_path" probes.toDocument.fields = some probes.ready :=
    valueOr_of_lookup rfl (decodeText?_text _)
  have htable : probes.toDocument = .table probes.toDocument.fields := rfl
  rw [htable, decode?_table, hhealth, hready]
  rfl

/-- The probe paths are decoded from what is filled in. -/
theorem readsFilled : ReadsFilled (ProbePaths.decode? surplus) usual.toDocument.fields := by
  intro fields fields' hfilled
  simp only [toDocument, Document.fields, List.forall_mem_cons] at hfilled
  obtain ⟨hhealth, hready, -⟩ := hfilled
  rw [decode?_table, decode?_table, valueOr_congr (decodeText?_text _) hhealth,
    valueOr_congr (decodeText?_text _) hready]

end ProbePaths

namespace DrainTimes

/-- The times of a shutdown as a table. -/
theorem decode?_table (fields : List (String × Document)) :
    DrainTimes.decode? surplus (.table fields) = (do
      let window ← valueOr (decodeBelow? Number.wordLimit) usual.window "timeout_ms" fields
      let grace ← valueOr (decodeBelow? Number.wordLimit) usual.grace "close_grace_ms" fields
      return ⟨window, grace⟩) := by
  simp only [DrainTimes.decode?, sectionValues?, Option.bind_eq_bind, Option.bind_some]

/-- Times that fit are decoded from their document. -/
theorem decode?_toDocument {drain : DrainTimes} (hwindow : drain.window < Number.wordLimit)
    (hgrace : drain.grace < Number.wordLimit) :
    DrainTimes.decode? surplus drain.toDocument = some drain := by
  have hwindow : valueOr (decodeBelow? Number.wordLimit) usual.window "timeout_ms" drain.toDocument.fields =
      some drain.window :=
    valueOr_of_lookup rfl (decodeBelow?_integer hwindow)
  have hgrace : valueOr (decodeBelow? Number.wordLimit) usual.grace "close_grace_ms"
      drain.toDocument.fields = some drain.grace :=
    valueOr_of_lookup rfl (decodeBelow?_integer hgrace)
  have htable : drain.toDocument = .table drain.toDocument.fields := rfl
  rw [htable, decode?_table, hwindow, hgrace]
  rfl

/-- The usual window fits. -/
theorem usual_window_lt : usual.window < Number.wordLimit := by decide

/-- The usual time for closing fits. -/
theorem usual_grace_lt : usual.grace < Number.wordLimit := by decide

/-- The times of a shutdown are decoded from what is filled in. -/
theorem readsFilled : ReadsFilled (DrainTimes.decode? surplus) usual.toDocument.fields := by
  intro fields fields' hfilled
  simp only [toDocument, Document.fields, List.forall_mem_cons] at hfilled
  obtain ⟨hwindow, hgrace, -⟩ := hfilled
  rw [decode?_table, decode?_table, valueOr_congr (decodeBelow?_integer usual_window_lt) hwindow,
    valueOr_congr (decodeBelow?_integer usual_grace_lt) hgrace]

/-- Times that are decoded fit. -/
theorem lt_of_decode? {document : Document} {drain : DrainTimes}
    (hdecode : DrainTimes.decode? surplus document = some drain) :
    drain.window < Number.wordLimit ∧ drain.grace < Number.wordLimit := by
  simp only [DrainTimes.decode?, Option.bind_eq_bind, Option.bind_eq_some_iff] at hdecode
  obtain ⟨values, -, window, hwindow, grace, hgrace, hdrain⟩ := hdecode
  cases hdrain
  exact ⟨of_valueOr (· < Number.wordLimit) hwindow usual_window_lt fun _ _ => lt_of_decodeBelow?,
    of_valueOr (· < Number.wordLimit) hgrace usual_grace_lt fun _ _ => lt_of_decodeBelow?⟩

end DrainTimes

namespace MarkdownRoute

/-- The mark-down route as a table. -/
theorem decode?_table (fields : List (String × Document)) :
    MarkdownRoute.decode? surplus (.table fields) = (do
      let path ← valueOr decodeText? usual.path "path" fields
      let method ← valueOr decodeText? usual.method "method" fields
      return ⟨path, method⟩) := by
  simp only [MarkdownRoute.decode?, sectionValues?, Option.bind_eq_bind, Option.bind_some]

/-- The mark-down route is decoded from its document. -/
theorem decode?_toDocument (markdown : MarkdownRoute) :
    MarkdownRoute.decode? surplus markdown.toDocument = some markdown := by
  have hpath : valueOr decodeText? usual.path "path" markdown.toDocument.fields = some markdown.path :=
    valueOr_of_lookup rfl (decodeText?_text _)
  have hmethod : valueOr decodeText? usual.method "method" markdown.toDocument.fields =
      some markdown.method :=
    valueOr_of_lookup rfl (decodeText?_text _)
  have htable : markdown.toDocument = .table markdown.toDocument.fields := rfl
  rw [htable, decode?_table, hpath, hmethod]
  rfl

/-- The mark-down route is decoded from what is filled in. -/
theorem readsFilled : ReadsFilled (MarkdownRoute.decode? surplus) usual.toDocument.fields := by
  intro fields fields' hfilled
  simp only [toDocument, Document.fields, List.forall_mem_cons] at hfilled
  obtain ⟨hpath, hmethod, -⟩ := hfilled
  rw [decode?_table, decode?_table, valueOr_congr (decodeText?_text _) hpath,
    valueOr_congr (decodeText?_text _) hmethod]

end MarkdownRoute

namespace Observability

/-- Log and metrics as a table. -/
theorem decode?_table (fields : List (String × Document)) :
    Observability.decode? surplus (.table fields) = (do
      let level ← valueOr decodeText? usual.level "log_level" fields
      let structuredLog ← valueOr decodeBoolean? usual.structuredLog "json_logs" fields
      let metricsEnabled ← valueOr decodeBoolean? usual.metricsEnabled "metrics_enabled" fields
      let metricsAddress ← valueOr decodeText? usual.metricsAddress "metrics_address" fields
      return ⟨level, structuredLog, metricsEnabled, metricsAddress⟩) := by
  simp only [Observability.decode?, sectionValues?, Option.bind_eq_bind, Option.bind_some]

/-- Log and metrics are decoded from their document. -/
theorem decode?_toDocument (observability : Observability) :
    Observability.decode? surplus observability.toDocument = some observability := by
  have hlevel : valueOr decodeText? usual.level "log_level" observability.toDocument.fields =
      some observability.level :=
    valueOr_of_lookup rfl (decodeText?_text _)
  have hstructured : valueOr decodeBoolean? usual.structuredLog "json_logs"
      observability.toDocument.fields = some observability.structuredLog :=
    valueOr_of_lookup rfl (decodeBoolean?_boolean _)
  have henabled : valueOr decodeBoolean? usual.metricsEnabled "metrics_enabled"
      observability.toDocument.fields = some observability.metricsEnabled :=
    valueOr_of_lookup rfl (decodeBoolean?_boolean _)
  have haddress : valueOr decodeText? usual.metricsAddress "metrics_address"
      observability.toDocument.fields = some observability.metricsAddress :=
    valueOr_of_lookup rfl (decodeText?_text _)
  have htable : observability.toDocument = .table observability.toDocument.fields := rfl
  rw [htable, decode?_table, hlevel, hstructured, henabled, haddress]
  rfl

/-- Log and metrics are decoded from what is filled in. -/
theorem readsFilled : ReadsFilled (Observability.decode? surplus) usual.toDocument.fields := by
  intro fields fields' hfilled
  simp only [toDocument, Document.fields, List.forall_mem_cons] at hfilled
  obtain ⟨hlevel, hstructured, henabled, haddress, -⟩ := hfilled
  rw [decode?_table, decode?_table, valueOr_congr (decodeText?_text _) hlevel,
    valueOr_congr (decodeBoolean?_boolean _) hstructured, valueOr_congr (decodeBoolean?_boolean _) henabled,
    valueOr_congr (decodeText?_text _) haddress]

end Observability

/-! ## The whole configuration -/

namespace Config

/-- The numbers of a configuration fit: ports into 16 bits, times into 64. -/
structure Fits (config : Config) : Prop where
  /-- The port of the primary surface fits. -/
  listener : config.listener.port < Net.portLimit
  /-- So does the port of the management surface, when there is one. -/
  management : ∀ listener, config.management = some listener → listener.port < Net.portLimit
  /-- The window fits. -/
  window : config.drain.window < Number.wordLimit
  /-- The time for closing fits. -/
  grace : config.drain.grace < Number.wordLimit

/-- A configuration as a table. -/
theorem decode?_table (fields : List (String × Document)) :
    Config.decode? surplus (.table fields) = (do
      let listener ← valueOr (Listener.decode? surplus) .anywhere "listener" fields
      let management ← valueOr (decodeOptional? (Listener.decode? surplus)) none "management" fields
      let probes ← valueOr (ProbePaths.decode? surplus) .usual "probes" fields
      let drain ← valueOr (DrainTimes.decode? surplus) .usual "drain" fields
      let markdown ← valueOr (decodeOptional? (MarkdownRoute.decode? surplus)) none "markdown" fields
      let observability ← valueOr (Observability.decode? surplus) .usual "observability" fields
      return ⟨listener, management, probes, drain, markdown, observability⟩) := by
  simp only [Config.decode?, sectionValues?, Option.bind_eq_bind, Option.bind_some]

/-- A configuration whose numbers fit is decoded from its document. -/
theorem decode?_toDocument {config : Config} (hfits : config.Fits) :
    Config.decode? surplus config.toDocument = some config := by
  have hlistener : valueOr (Listener.decode? surplus) .anywhere "listener" config.toDocument.fields =
      some config.listener :=
    valueOr_of_lookup rfl (Listener.decode?_toDocument surplus hfits.listener)
  have hmanagement : valueOr (decodeOptional? (Listener.decode? surplus)) none "management"
      config.toDocument.fields = some config.management :=
    valueOr_of_lookup rfl (decodeOptional?_optionalSection (fun listener => ⟨_, rfl⟩)
      fun listener hlistener => Listener.decode?_toDocument surplus (hfits.management listener hlistener))
  have hprobes : valueOr (ProbePaths.decode? surplus) .usual "probes" config.toDocument.fields =
      some config.probes :=
    valueOr_of_lookup rfl (ProbePaths.decode?_toDocument surplus _)
  have hdrain : valueOr (DrainTimes.decode? surplus) .usual "drain" config.toDocument.fields =
      some config.drain :=
    valueOr_of_lookup rfl (DrainTimes.decode?_toDocument surplus hfits.window hfits.grace)
  have hmarkdown : valueOr (decodeOptional? (MarkdownRoute.decode? surplus)) none "markdown"
      config.toDocument.fields = some config.markdown :=
    valueOr_of_lookup rfl (decodeOptional?_optionalSection (fun markdown => ⟨_, rfl⟩)
      fun markdown _ => MarkdownRoute.decode?_toDocument surplus markdown)
  have hobservability : valueOr (Observability.decode? surplus) .usual "observability"
      config.toDocument.fields = some config.observability :=
    valueOr_of_lookup rfl (Observability.decode?_toDocument surplus _)
  have htable : config.toDocument = .table config.toDocument.fields := rfl
  rw [htable, decode?_table, hlistener, hmanagement, hprobes, hdrain, hmarkdown, hobservability]
  rfl

/-- A configuration is decoded from what is filled in. -/
theorem readsFilled : ReadsFilled (Config.decode? surplus) usual.toDocument.fields := by
  intro fields fields' hfilled
  simp only [toDocument, Document.fields, List.forall_mem_cons] at hfilled
  obtain ⟨hlistener, hmanagement, hprobes, hdrain, hmarkdown, hobservability, -⟩ := hfilled
  rw [decode?_table, decode?_table,
    valueOr_congr (Listener.decode?_toDocument surplus Listener.anywhere_port_lt) hlistener,
    valueOr_congr (decodeOptional?_null (Listener.decode? surplus)) hmanagement,
    valueOr_congr (ProbePaths.decode?_toDocument surplus ProbePaths.usual) hprobes,
    valueOr_congr (DrainTimes.decode?_toDocument surplus DrainTimes.usual_window_lt
      DrainTimes.usual_grace_lt) hdrain,
    valueOr_congr (decodeOptional?_null (MarkdownRoute.decode? surplus)) hmarkdown,
    valueOr_congr (Observability.decode?_toDocument surplus Observability.usual) hobservability]

/-- A section may be replaced by one that is decoded alike. -/
theorem decode?_replace {name : String} {inner inner' : List (String × Document)}
    (before after : List (String × Document))
    (hlistener : name = "listener" ∨ name = "management" →
      Listener.decode? surplus (.table inner') = Listener.decode? surplus (.table inner))
    (hprobes : name = "probes" →
      ProbePaths.decode? surplus (.table inner') = ProbePaths.decode? surplus (.table inner))
    (hdrain : name = "drain" →
      DrainTimes.decode? surplus (.table inner') = DrainTimes.decode? surplus (.table inner))
    (hmarkdown : name = "markdown" →
      MarkdownRoute.decode? surplus (.table inner') = MarkdownRoute.decode? surplus (.table inner))
    (hobservability : name = "observability" →
      Observability.decode? surplus (.table inner') = Observability.decode? surplus (.table inner)) :
    Config.decode? surplus (.table (before ++ (name, .table inner') :: after)) =
      Config.decode? surplus (.table (before ++ (name, .table inner) :: after)) := by
  have hmanagement (hname : name = "management") :
      decodeOptional? (Listener.decode? surplus) (.table inner') =
        decodeOptional? (Listener.decode? surplus) (.table inner) :=
    congrArg (Option.map some) (hlistener (.inr hname))
  have hmarkdown' (hname : name = "markdown") :
      decodeOptional? (MarkdownRoute.decode? surplus) (.table inner') =
        decodeOptional? (MarkdownRoute.decode? surplus) (.table inner) :=
    congrArg (Option.map some) (hmarkdown hname)
  rw [decode?_table, decode?_table, valueOr_replace before after fun hname => hlistener (.inl hname),
    valueOr_replace before after hmanagement, valueOr_replace before after hprobes,
    valueOr_replace before after hdrain, valueOr_replace before after hmarkdown',
    valueOr_replace before after hobservability]

/-- The numbers of a configuration that is decoded fit. -/
theorem fits_of_decode? {document : Document} {config : Config}
    (hdecode : Config.decode? surplus document = some config) : config.Fits := by
  simp only [Config.decode?, Option.bind_eq_bind, Option.bind_eq_some_iff] at hdecode
  obtain ⟨values, -, listener, hlistener, management, hmanagement, probes, -, drain, hdrain, markdown, -,
    observability, -, hconfig⟩ := hdecode
  cases hconfig
  have hlistenerFits : listener.port < Net.portLimit :=
    of_valueOr (fun listener => listener.port < Net.portLimit) hlistener Listener.anywhere_port_lt
      fun _ _ => Listener.port_lt_of_decode? surplus
  have hmanagementFits : ∀ listener, management = some listener → listener.port < Net.portLimit :=
    of_valueOr (fun management => ∀ listener, management = some listener → listener.port < Net.portLimit)
      hmanagement (by simp) fun document management hdecode listener hsome =>
        Listener.port_lt_of_decode? surplus (decode_of_decodeOptional? (hsome ▸ hdecode))
  have hdrainFits : drain.window < Number.wordLimit ∧ drain.grace < Number.wordLimit :=
    of_valueOr (fun drain => drain.window < Number.wordLimit ∧ drain.grace < Number.wordLimit) hdrain
      ⟨DrainTimes.usual_window_lt, DrainTimes.usual_grace_lt⟩ fun _ _ => DrainTimes.lt_of_decode? surplus
  exact ⟨hlistenerFits, hmanagementFits, hdrainFits.1, hdrainFits.2⟩

end Config

end GracefulService
