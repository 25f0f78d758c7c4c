import TypedClient.Loading
import TypedClient.Output
import TypedClient.Proofs.Declaration.Modules
import TypedClient.Proofs.Json.Kinds
import TypedClient.Proofs.Schema.Form
import TypedClient.Proofs.TypeScript.Printable

/-! When the schemas of a document can be printed as constants. -/

namespace TypedClient

open Outcome (Settles)

/-- A schema with a text for its name that can be printed. -/
def IsPrintableEntry (entry : Scalar × Value) : Prop :=
  (∃ s, entry.1 = .text s) ∧ entry.2.IsPrintable

variable {document parent v : Value} {key : String} {schemas : Members} {path : Path} {text : String}
  {client : Client} {config : Config}

namespace Value

/-- What JSON has can be printed. -/
theorem IsJson.isPrintable (json : v.IsJson) : v.IsPrintable :=
  json.imp fun part kind => by
    cases part with
    | scalar s => cases s <;> first | exact not_false | exact kind.elim
    | pair key value => exact kind.elim
    | set items => exact kind
    | _ => trivial

/-- A value of a kind that YAML has without tags: neither bytes nor a set nor a pair. -/
def IsUntaggedKind : Value → Prop
  | .scalar (.bytes _) | .set _ | .pair .. => False
  | _ => True

/-- What YAML has without tags can be printed exactly if no part of it is a moment. -/
theorem isPrintable_iff_no_moment (untagged : v.Throughout IsUntaggedKind) :
    v.IsPrintable ↔ ∀ m, ¬ IsPart (.scalar (.moment m)) v := by
  refine ⟨fun printable m inside => printable _ inside trivial, fun none part inside => ?_⟩
  have kind := untagged part inside
  cases part with
  | scalar s =>
    cases s with
    | moment m => exact absurd inside (none m)
    | bytes content => exact kind.elim
    | _ => exact not_false
  | set items => exact kind
  | pair key value => exact kind.elim
  | _ => trivial

end Value

namespace Document

/-- What a value of JSON has under a key is one too. -/
theorem isJson_mapUnder (json : parent.IsJson) (found : mapUnder parent key = .ok v) : v.IsJson := by
  simp only [mapUnder, Outcome.bind_eq_ok, Outcome.pure_eq_ok, Value.get_eq_ok] at found
  obtain ⟨_, ⟨members, rfl, rfl⟩, rfl⟩ := found
  rw [Value.orElse]
  split
  · next truthy => exact json.of_isPart (Value.isPart_of_truthy truthy)
  · exact Value.isJson_map.mpr (List.forall_mem_nil _)

/-- The schemas of a document of JSON have texts for names and are of JSON. -/
theorem isJsonEntry_schemas (json : document.IsJson) (listed : Document.schemas document = .ok (.map schemas)) :
    ∀ entry ∈ schemas, Value.IsJsonEntry entry := by
  refine Value.isJson_map.mp ?_
  simp only [Document.schemas, Outcome.bind_eq_ok] at listed
  obtain ⟨old, -, listed⟩ := listed
  split at listed
  · exact isJson_mapUnder json listed
  · obtain ⟨components, found, listed⟩ := Outcome.bind_eq_ok.mp listed
    exact isJson_mapUnder (isJson_mapUnder json found) listed

/-- The document of a file of JSON is of JSON. -/
theorem isJson_ofText (isJson : path.isJson = true) (read : ofText path text = .ok document) : document.IsJson := by
  simp only [ofText, valueOfText, isJson, if_true, Outcome.bind_eq_ok] at read
  obtain ⟨whole, found, read⟩ := read
  split at read <;> cases read
  split at found <;> cases found
  exact Json.isJson_read ‹_›

end Document

namespace Client

/-- A file is printed exactly if its declarations are. -/
theorem settles_render {condition : Declaration → Prop} (file : OutputFile)
    (each : ∀ d ∈ file.declarations, Settles d.render (condition d)) :
    Settles file.render (∀ d ∈ file.declarations, condition d) := by
  obtain ⟨name, declarations, manifest⟩ := file
  rw [OutputFile.render]
  cases declarations with
  | nil => exact .of_ok (List.forall_mem_nil _) _
  | cons first rest =>
    obtain ⟨own, others⟩ := List.forall_mem_cons.mp each
    rw [List.forall_mem_cons]
    exact own.bind fun head _ => (Settles.mapM fun d mem => (others d mem).map _).map _

/-- A schema is declared as a constant with its value if its name is a text. -/
theorem schemaDeclaration_eq_ok {key : Scalar} {schema : Value} {d : Declaration} :
    schemaDeclaration key schema = .ok d ↔ ∃ s, key = .text s ∧ d = .const ("$" ++ sanitizeIdentifier s) schema := by
  cases key with
  | text s => simp [schemaDeclaration, Value.asText, eq_comm]
  | _ => simp [schemaDeclaration, Value.asText, misfit, Bind.bind, Except.bind]

/-- Whatever the file of the schemas declares is a constant. -/
theorem exists_const {file : OutputFile} {d : Declaration} (made : schemasFile document = .ok file)
    (inside : d ∈ file.declarations) : ∃ name value, d = .const name value := by
  simp only [schemasFile, Outcome.bind_eq_ok, Outcome.pure_eq_ok] at made
  obtain ⟨_, -, _, -, _, declared, rfl⟩ := made
  obtain ⟨entry, -, declares⟩ := Outcome.exists_item declared inside
  obtain ⟨s, -, rfl⟩ := schemaDeclaration_eq_ok.mp declares
  exact ⟨_, _, rfl⟩

/-- Schemas are declared exactly if all their names are texts. -/
theorem settles_schemaDeclaration (schemas : Members) :
    Settles (schemas.mapM fun entry => schemaDeclaration entry.1 entry.2)
      (∀ entry ∈ schemas, ∃ s, entry.1 = .text s) := by
  refine Settles.mapM fun entry _ => ?_
  obtain ⟨key, schema⟩ := entry
  cases key with
  | text s => exact .of_ok ⟨s, rfl⟩ _
  | _ => exact .of_misfit (by simp) _

/-- A constant whose value can be printed. -/
def IsPrintableConstant : Declaration → Prop
  | .const _ value => value.IsPrintable
  | _ => False

/-- The file of declared schemas is printed exactly if each of them can be. -/
theorem settles_render_schemas {declarations : List Declaration}
    (declared : (schemas.mapM fun entry => schemaDeclaration entry.1 entry.2) = .ok declarations) :
    Settles (OutputFile.render { name := "schemas.gen.ts", declarations })
      (∀ entry ∈ schemas, entry.2.IsPrintable) := by
  -- There is one constant for each entry, and its schema is the value.
  have constants : (∀ d ∈ declarations, IsPrintableConstant d) ↔ ∀ entry ∈ schemas, entry.2.IsPrintable := by
    constructor
    · intro each entry mem
      obtain ⟨d, inside, made⟩ := Outcome.exists_result declared mem
      obtain ⟨s, -, rfl⟩ := schemaDeclaration_eq_ok.mp made
      exact each _ inside
    · intro each d inside
      obtain ⟨entry, mem, made⟩ := Outcome.exists_item declared inside
      obtain ⟨s, -, rfl⟩ := schemaDeclaration_eq_ok.mp made
      exact each entry mem
  rw [← constants]
  refine settles_render _ fun d inside => ?_
  obtain ⟨entry, -, made⟩ := Outcome.exists_item declared inside
  obtain ⟨s, -, rfl⟩ := schemaDeclaration_eq_ok.mp made
  exact (settles_printValue entry.2 0).map _

/-- The file of the schemas is made and printed exactly if every schema has a text for its name and can be printed. -/
theorem settles_schemasFile (listed : Document.schemas document = .ok (.map schemas)) :
    Settles (schemasFile document >>= OutputFile.render) (∀ entry ∈ schemas, IsPrintableEntry entry) := by
  have made : schemasFile document = (schemas.mapM fun entry => schemaDeclaration entry.1 entry.2) >>=
      fun declarations => Except.ok ({ name := "schemas.gen.ts", declarations } : OutputFile) := by
    rw [schemasFile, listed]
    rfl
  simp only [IsPrintableEntry, forall₂_and]
  rw [made, bind_assoc]
  exact (settles_schemaDeclaration schemas).bind fun declarations => settles_render_schemas

/-- Where the schemas are wanted and everything is printed, so is their file. -/
theorem exists_text_of_pages {pages : List Page} (wanted : config.exportSchemas.truthy = true)
    (printed : Client.pages document config = .ok pages) :
    ∃ text, (schemasFile document >>= OutputFile.render) = .ok text := by
  simp only [Client.pages, Outcome.bind_eq_ok] at printed
  obtain ⟨client, -, files, compiled, printed⟩ := printed
  obtain ⟨file, made, listed⟩ : ∃ file, schemasFile document = .ok file ∧ file ∈ files.map Prod.snd := by
    simp only [Client.files, wanted, if_true, Outcome.ite_bind_eq_ok, Outcome.bind_eq_ok, Outcome.map_eq_ok,
      Outcome.pure_eq_ok] at compiled
    obtain ⟨_, ⟨file, made, rfl⟩, types, -, services, -, rfl⟩ := compiled
    exact ⟨file, made, by simp⟩
  obtain ⟨text, rendered⟩ : ∃ text, file.render = .ok text := by
    cases declares : file.declarations with
    | nil => exact ⟨_, by rw [OutputFile.render, declares]; rfl⟩
    | cons first rest =>
      -- A file that declares something is printed with the others.
      simp only [Client.render, Outcome.ite_bind_eq_ok, Outcome.bind_eq_ok] at printed
      obtain ⟨core, -, own, ownMade, -⟩ := printed
      have kept : file ∈ (files.map Prod.snd).filter fun file => !file.isEmpty :=
        List.mem_filter.mpr ⟨listed, by simp [OutputFile.isEmpty, declares]⟩
      obtain ⟨page, -, rendered⟩ := Outcome.exists_result ownMade kept
      obtain ⟨text, rendered, -⟩ := Outcome.bind_eq_ok.mp rendered
      exact ⟨text, rendered⟩
  exact ⟨text, Outcome.bind_eq_ok.mpr ⟨file, made, rendered⟩⟩

/--
A schema is printed as a constant exactly if each of its parts can be, which in YAML without tags is if no moment is
among them; so the file of the schemas is printed exactly if all of them can be and have texts for names.

In JSON they always do.
Otherwise the run fails without reporting the failure as its own, and prints nothing at all if the schemas are wanted.
-/
theorem schemas_printed_iff (read : Document.ofText path text = .ok document)
    (listed : Document.schemas document = .ok (.map schemas)) :
    (∀ entry ∈ schemas, Settles (printValue entry.2 0) entry.2.IsPrintable ∧
      (entry.2.Throughout Value.IsUntaggedKind →
        (entry.2.IsPrintable ↔ ∀ m, ¬ Value.IsPart (.scalar (.moment m)) entry.2))) ∧
      Settles (schemasFile document >>= OutputFile.render) (∀ entry ∈ schemas, IsPrintableEntry entry) ∧
      (path.isJson = true → ∀ entry ∈ schemas, IsPrintableEntry entry) ∧
      ∀ config pages, config.exportSchemas.truthy = true → Client.pages document config = .ok pages →
        ∀ entry ∈ schemas, IsPrintableEntry entry := by
  refine ⟨fun entry _ => ⟨settles_printValue entry.2 0, Value.isPrintable_iff_no_moment⟩, settles_schemasFile listed,
    fun isJson entry mem => ?_, fun config pages wanted printed => ?_⟩
  · obtain ⟨named, json⟩ := Document.isJsonEntry_schemas (Document.isJson_ofText isJson read) listed entry mem
    exact ⟨named, json.isPrintable⟩
  · exact (settles_schemasFile listed).iff.mp (exists_text_of_pages wanted printed)

/-- A schema of a file of YAML with a date in quotes, which is a text: where the schemas are wanted it is printed. -/
theorem schemas_printed_quoted :
    let text := "openapi: 3.0.0\ncomponents:\n  schemas:\n    Day:\n      example: '2020-01-31'\n"
    let config : Config := { exportCore := .bool false, exportSchemas := .bool true }
    ∃ document schemas pages, Document.ofText (.ofText "api.yaml") text = .ok document ∧
      Document.schemas document = .ok (.map schemas) ∧ schemas.map Prod.fst = [.text "Day"] ∧
      Client.pages document config = .ok pages ∧ ∀ entry ∈ schemas, IsPrintableEntry entry := by
  intro text config
  obtain ⟨⟨document, schemas, pages⟩, done, names⟩ := Outcome.exists_of_any (x := do
      let document ← Document.ofText (.ofText "api.yaml") text
      let schemas ← (← Document.schemas document).members
      let pages ← Client.pages document config
      return (document, schemas, pages)) (p := fun found => found.2.1.map Prod.fst = [.text "Day"]) (by decide +kernel)
  simp only [Outcome.bind_eq_ok, Outcome.pure_eq_ok, Value.members_eq_ok] at done
  obtain ⟨_, read, _, listed, _, rfl, _, printed, same⟩ := done
  cases same
  obtain ⟨-, -, -, only⟩ := schemas_printed_iff read listed
  exact ⟨document, schemas, pages, read, listed, by simpa using names, printed, only config pages rfl printed⟩

/-- A schema of a file of YAML with a date that is not in quotes: it is declared as a constant, but has no text, and
where the schemas are wanted the run fails without reporting the failure as its own. -/
theorem not_schemas_printed_date :
    let text := "openapi: 3.0.0\ncomponents:\n  schemas:\n    Day:\n      example: 2020-01-31\n"
    let config : Config := { exportCore := .bool false, exportSchemas := .bool true }
    ∃ document file name value, Document.ofText (.ofText "api.yaml") text = .ok document ∧
      schemasFile document = .ok file ∧ .const name value ∈ file.declarations ∧
      (∀ printed, printValue value 0 ≠ .ok printed) ∧
      ∃ e, Client.pages document config = .error e ∧ e.isReported = false := by
  intro text config
  obtain ⟨⟨document, file⟩, done, seen⟩ := Outcome.exists_of_any (x := do
      let document ← Document.ofText (.ofText "api.yaml") text
      let file ← schemasFile document
      return (document, file)) (p := fun found =>
        (found.2.declarations.any fun d => Outcome.isSilent d.render) && Outcome.isSilent (Client.pages found.1 config))
    (by decide +kernel)
  simp only [Outcome.bind_eq_ok, Outcome.pure_eq_ok] at done
  obtain ⟨_, read, _, made, same⟩ := done
  cases same
  obtain ⟨unprinted, failed⟩ := Bool.and_eq_true_iff.mp seen
  obtain ⟨d, inside, silent⟩ := List.any_eq_true.mp unprinted
  obtain ⟨name, value, rfl⟩ := exists_const made inside
  obtain ⟨e, error, -⟩ := Outcome.isSilent_iff.mp silent
  refine ⟨document, file, name, value, read, made, inside, ?_, Outcome.isSilent_iff.mp failed⟩
  intro printed result
  simp [Declaration.render, result] at error

end Client

end TypedClient
