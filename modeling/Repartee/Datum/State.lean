import Repartee.Datum
import Repartee.Rule

/-! Values, stores, speakers and occasions as the content of documents. -/
namespace Repartee

def EntityId.ofDatum? (d : Datum) : Option EntityId := d.text?.bind EntityId.ofText?

def EntityId.datum (id : EntityId) : Datum := .text id.toText

def Color.ofDatum? (d : Datum) : Option Color := do
  match ← d.fieldsOf? ["r", "g", "b"] with
  | [r, g, b] =>
    some ⟨← Datum.required? Datum.byte? r, ← Datum.required? Datum.byte? g, ← Datum.required? Datum.byte? b⟩
  | _ => none

def Color.datum (c : Color) : Datum :=
  .ofFields [("r", .int c.red.toNat), ("g", .int c.green.toNat), ("b", .int c.blue.toNat)]

def Value.ofDatum? (d : Datum) : Option Value := do
  match ← d.variant? with
  | ("Bool", some d) => d.bool?.map Value.bool
  | ("Int", some d) => d.int64?.map Value.int
  | ("Float", some d) => d.float?.map Value.float
  | ("Str", some d) => d.text?.map Value.text
  | ("Entity", some d) => (EntityId.ofDatum? d).map Value.entity
  | ("Color", some d) => (Color.ofDatum? d).map Value.color
  | _ => none

def Value.datum : Value → Datum
  | bool b => .ofFields [("Bool", .bool b)]
  | int n => .ofFields [("Int", .int n.toInt)]
  | float x => .ofFields [("Float", .float x)]
  | text s => .ofFields [("Str", .text s)]
  | entity id => .ofFields [("Entity", id.datum)]
  | color c => .ofFields [("Color", c.datum)]

def Store.ofDatum? (d : Datum) : Option Store := do
  let fields ← d.namedFields?
  let pairs ← fields.mapM (fun f => (Value.ofDatum? f.2).map (fun v => (f.1, v)))
  some (Assoc.ofList pairs)

def Store.datum (s : Store) : Datum := .ofFields (s.entries.map (fun e => (e.1, e.2.datum)))

def Memories.ofDatum? (d : Datum) : Option Memories := do
  match ← d.fieldsOf? ["memories"] with
  | [some d] =>
    let fields ← d.namedFields?
    let pairs ← fields.mapM (fun f => do some (← EntityId.ofText? f.1, ← Store.ofDatum? f.2))
    some (Assoc.ofList pairs)
  | _ => none

def Memories.datum (m : Memories) : Datum :=
  .ofFields [("memories", .ofFields (m.entries.map (fun e => (e.1.toText, Store.datum e.2))))]

def Speaker.ofDatum? (d : Datum) : Option Speaker := do
  match ← d.fieldsOf? ["id", "name", "subtitle_color", "extra_state"] with
  | [id, name, color, extra] =>
    some {
      id := ← Datum.required? EntityId.ofDatum? id
      name := ← Datum.required? Datum.text? name
      subtitleColor := ← Datum.required? Color.ofDatum? color
      extraState := ← Datum.orElse? {} Store.ofDatum? extra }
  | _ => none

def Speaker.datum (s : Speaker) : Datum :=
  .ofFields [("id", s.id.datum), ("name", .text s.name), ("subtitle_color", s.subtitleColor.datum),
    ("extra_state", Store.datum s.extraState)]

def optionDatum {α : Type} (datum : α → Datum) : Option α → Datum
  | none => .null
  | some a => datum a

def Occasion.ofDatum? (d : Datum) : Option Occasion := do
  match ← d.fieldsOf? ["concept", "who", "speaker", "event", "character"] with
  | [concept, who, speaker, event, character] =>
    some {
      concept := ← Datum.required? Datum.text? concept
      who := ← Datum.required? Datum.text? who
      speaker := ← Datum.orElse? none (Datum.optional? EntityId.ofDatum?) speaker
      event := ← Datum.orElse? {} Store.ofDatum? event
      character := ← Datum.orElse? {} Store.ofDatum? character }
  | _ => none

def Occasion.datum (o : Occasion) : Datum :=
  .ofFields [("concept", .text o.concept), ("who", .text o.who),
    ("speaker", optionDatum EntityId.datum o.speaker), ("event", Store.datum o.event),
    ("character", Store.datum o.character)]

def plainVariant? {α : Type} (name : α → String) (all : List α) (d : Datum) : Option α := do
  match ← d.variant? with
  | (n, none) => all.find? (fun a => name a == n)
  | (n, some .null) => all.find? (fun a => name a == n)
  | _ => none

def Source.documentName : Source → String
  | event => "Event"
  | character => "Character"
  | memory => "Memory"
  | world => "World"
  | target => "Target"

def Source.ofDatum? : Datum → Option Source := plainVariant? documentName all

def Source.datum (s : Source) : Datum := .text s.documentName

end Repartee
