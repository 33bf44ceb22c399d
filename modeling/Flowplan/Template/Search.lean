import Flowplan.Template.Store
import Flowplan.Text.Blank
import Flowplan.Text.Occurrence

namespace Flowplan

/-- Conditions that a template must meet besides the words of a query. -/
structure SearchFilters where
  category : Option Template.Category
  difficulty : Option Template.Difficulty
  tags : List String
  service : Option String
  deriving DecidableEq

namespace SearchFilters

def none : SearchFilters := ⟨.none, .none, [], .none⟩

def ofJson : Json → Checked SearchFilters :=
  Record.record fun members =>
    SearchFilters.mk
      <$> Record.optional members "category" (Record.nullable Record.choice) .none
      <*> Record.optional members "difficulty" (Record.nullable Record.choice) .none
      <*> Record.optional members "tags" (Record.list Record.text) []
      <*> Record.optional members "integration" (Record.nullable Record.text) .none

def toJson (filters : SearchFilters) : Json :=
  .obj [
    ("category", .ofOption (fun category => .str (label category)) filters.category),
    ("difficulty", .ofOption (fun difficulty => .str (label difficulty)) filters.difficulty),
    ("tags", .strings filters.tags),
    ("integration", .ofOption .str filters.service)]

/-- No tags and an empty service name set no condition. -/
def admits (filters : SearchFilters) (template : Template) : Bool :=
  filters.category.all (template.category = ·)
    && filters.difficulty.all (template.difficulty = ·)
    && (filters.tags.isEmpty || template.tags.any (· ∈ filters.tags))
    && filters.service.all fun service =>
      service.isEmpty || template.services.any fun s => Text.fold s.name = Text.fold service

end SearchFilters

namespace Template

def nameMentions (template : Template) (word : String) : Bool :=
  Text.mentions (Text.fold template.name) word

def descriptionMentions (template : Template) (word : String) : Bool :=
  Text.mentions (Text.fold template.description) word

def tagMentions (template : Template) (word : String) : Bool :=
  template.tags.any fun tag => Text.mentions (Text.fold tag) word

/-- A folded word occurs in the name, the description or a tag. -/
def matchesWord (template : Template) (word : String) : Bool :=
  template.nameMentions word || template.descriptionMentions word || template.tagMentions word

/-- A hit in the name outweighs one in the description, and that one a hit in the tags. -/
def keywordScore (template : Template) (keyword : String) : Nat :=
  (if template.nameMentions keyword then 3 else 0)
    + (if template.descriptionMentions keyword then 2 else 0)
    + (if template.tagMentions keyword then 1 else 0)

def score (template : Template) (keywords : List String) : Nat :=
  Number.total (keywords.map template.keywordScore)

end Template

namespace TemplateStore

/-- The templates that match every word of the query and pass the filters, most popular first. -/
def search (store : TemplateStore) (query : String) (filters : SearchFilters) : List Template :=
  let words := Text.words (Text.fold query)
  byPopularity <| store.templates.filter fun template =>
    words.all template.matchesWord && filters.admits template

/-- No more templates than these are ever recommended. -/
def recommendationLimit : Nat := 10

/-- The keyword that a text stands for; blank texts stand for none. -/
def keyword? (text : String) : Option String :=
  if Text.allBlank text then none else some (Text.fold text)

/-- The templates that some keyword hits, those with the highest score first. -/
def ranking (store : TemplateStore) (keywords : List String) : List Template :=
  let scored := store.templates.map fun template => (template.score keywords, template)
  let hits := scored.filter fun pair => 0 < pair.1
  (hits.mergeSort fun a b => b.1 ≤ a.1).map (·.2)

def recommend (store : TemplateStore) (texts : List String) (limit : Int) : List Template :=
  (store.ranking (texts.filterMap keyword?)).take (min limit.toNat recommendationLimit)

end TemplateStore

end Flowplan
