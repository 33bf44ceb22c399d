import Flowplan.Fault
import Flowplan.Number.Total
import Flowplan.Template.Basic
import Flowplan.Text.Fold

namespace Flowplan

namespace Template

/-- Templates filed under keys, both in the order in which they came. -/
abbrev Index (κ : Type) := List (κ × List Template)

namespace Index

variable {κ : Type} [DecidableEq κ]

def add (key : κ) (template : Template) : Index κ → Index κ
  | [] => [(key, [template])]
  | (k, templates) :: rest =>
    if k = key then (k, templates ++ [template]) :: rest
    else (k, templates) :: add key template rest

def get (index : Index κ) (key : κ) : List Template :=
  (index.lookup key).getD []

/-- Files each template under every one of its keys. -/
def build (keys : Template → List κ) (templates : List Template) : Index κ :=
  templates.foldl
    (fun index template => (keys template).foldl (fun index key => index.add key template) index) []

end Index

/-- The services of a template without regard to case, each once. -/
def serviceKeys (template : Template) : List String :=
  (template.services.map fun service => Text.fold service.name).eraseDups

end Template

/-- The templates at hand, with an index for each way of looking them up. -/
structure TemplateStore where
  templates : List Template
  byId : List (String × Template)
  byCategory : Template.Index Template.Category
  byTag : Template.Index String
  byService : Template.Index String

namespace TemplateStore

def ofTemplates (templates : List Template) : TemplateStore :=
  { templates
    byId := templates.map fun template => (template.id, template)
    byCategory := .build (fun template => [template.category]) templates
    byTag := .build (·.tags) templates
    byService := .build Template.serviceKeys templates }

def empty : TemplateStore := ofTemplates []

/-- Something to load: a template, or data that may describe one. -/
inductive Item where
  | held (template : Template)
  | data (json : Json)

/-- Data that is no object is an error, an object that describes no template is skipped. -/
def Item.read : Item → Outcome (Option Template)
  | .held template => .ok (some template)
  | .data (.obj members) => .ok (Template.ofJson (.obj members)).value?
  | .data json => .error (.precondition (.notTemplate json.kind))

def readItems : List Item → Outcome (List Template)
  | [] => .ok []
  | item :: rest => do
    let template? ← item.read
    let templates ← readItems rest
    pure (template?.toList ++ templates)

/-- Of templates with one id the first is kept; `seen` holds the ids so far. -/
def keepFirst (seen : List String) : List Template → List Template
  | [] => []
  | template :: rest =>
    if template.id ∈ seen then keepFirst seen rest
    else template :: keepFirst (template.id :: seen) rest

def ofItems (items : List Item) : Outcome TemplateStore :=
  (readItems items).map fun templates => ofTemplates (keepFirst [] templates)

/-- The store after an attempt to replace it, and how many templates it then holds. A failed
attempt leaves it as it was. -/
def replace (store : TemplateStore) : Outcome TemplateStore → Outcome Nat × TemplateStore
  | .ok loaded => (.ok loaded.templates.length, loaded)
  | .error fault => (.error fault, store)

/-- Replaces the templates by those that the records describe. -/
def load (store : TemplateStore) (records : Json) : Outcome Nat × TemplateStore :=
  store.replace <| (requireList "templates" records).bind fun items => ofItems (items.map .data)

def get? (store : TemplateStore) (id : String) : Option Template :=
  store.byId.lookup id

def ofCategory (store : TemplateStore) (category : Template.Category) : List Template :=
  store.byCategory.get category

/-- The templates of a category given by name; an unknown name has none. -/
def ofCategoryNamed (store : TemplateStore) (name : String) : List Template :=
  match Labelled.ofLabel? name with
  | some category => store.ofCategory category
  | none => []

def ofTag (store : TemplateStore) (tag : String) : List Template :=
  store.byTag.get tag

def ofService (store : TemplateStore) (service : String) : List Template :=
  store.byService.get (Text.fold service)

def categories (store : TemplateStore) : List Template.Category :=
  store.byCategory.map (·.1)

def holds (store : TemplateStore) (id : String) : Bool :=
  store.byId.any (·.1 = id)

/-- The most popular first; equally popular ones keep their order. -/
def byPopularity (templates : List Template) : List Template :=
  templates.mergeSort fun a b => b.popularity ≤ a.popularity

def popular (store : TemplateStore) (count : Int) : List Template :=
  (byPopularity store.templates).take count.toNat

end TemplateStore

/-- The numbers that summarize a store. -/
structure StoreStats where
  total : Nat
  categories : Nat
  tags : Nat
  integrations : Nat
  averagePopularity : Binary64
  deriving DecidableEq

namespace StoreStats

def ofJson : Json → Checked StoreStats :=
  Record.record fun members =>
    StoreStats.mk
      <$> Record.required members "total" Record.natural
      <*> Record.required members "categories" Record.natural
      <*> Record.required members "tags" Record.natural
      <*> Record.required members "integrations" Record.natural
      <*> Record.required members "avg_popularity" fun json =>
        (Record.real json).guard (·.atLeast 0)

def toJson (stats : StoreStats) : Json :=
  .obj [
    ("total", .int stats.total),
    ("categories", .int stats.categories),
    ("tags", .int stats.tags),
    ("integrations", .int stats.integrations),
    ("avg_popularity", .float stats.averagePopularity)]

end StoreStats

def TemplateStore.stats (store : TemplateStore) : StoreStats :=
  let count := store.templates.length
  let popularity := Number.total (store.templates.map (·.popularity))
  { total := count
    categories := store.byCategory.length
    tags := store.byTag.length
    integrations := store.byService.length
    averagePopularity := if count = 0 then .finite 0 else .ofRat (popularity / count) }

end Flowplan
