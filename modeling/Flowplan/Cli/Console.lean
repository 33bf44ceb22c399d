import Flowplan.Number.Fixed
import Flowplan.Pipeline
import Flowplan.Template.Store

namespace Flowplan.Cli

/-- A piece of output, with its markup. -/
inductive Printed where
  | line (text : String)
  | panel (text : String) (title : Option String)
  | table (title : String) (columns : List String) (rows : List (List String))

namespace Printed

def templateRow (template : Template) : List String := [
  template.id,
  template.name,
  label template.category,
  label template.difficulty,
  toString template.popularity,
  ", ".intercalate template.tags]

def templates (title : String) (templates : List Template) : Printed :=
  .table title ["ID", "Name", "Category", "Difficulty", "Popularity", "Tags"]
    (templates.map templateRow)

/-- A number with one place after the point. -/
def onePlace (x : Binary64) : String :=
  match x.value? with
  | some q => Number.fixedPlaces 1 q
  | none => x.text

def statistics (stats : StoreStats) : Printed :=
  .panel
    ("\n".intercalate [
      s!"[bold]Templates:[/bold] {stats.total}",
      s!"[bold]Categories:[/bold] {stats.categories}",
      s!"[bold]Tags:[/bold] {stats.tags}",
      s!"[bold]Integrations:[/bold] {stats.integrations}",
      s!"[bold]Average popularity:[/bold] {onePlace stats.averagePopularity}"])
    (some "Template catalog")

def categories (store : TemplateStore) : Printed :=
  .table "By category" ["Category", "Templates"]
    (store.categories.map fun category =>
      [label category, toString (store.ofCategory category).length])

def banner : Printed :=
  .panel "[bold blue]flowsmith[/bold blue]\n[dim]Requirements to n8n workflow graphs[/dim]" none

def rule : Printed :=
  .line ("\n" ++ String.ofList (List.replicate 60 '='))

def percent (share : Rat) : String :=
  Number.fixedPlaces 0 (share * 100) ++ "%"

def graphLine (graph : Graph) : Printed :=
  .line s!"  - {graph.name.shown} ({graph.nodes.length} nodes)"

def recommendationLine (template : Template) : Printed :=
  .line s!"  - {template.name} [dim]({template.id})[/dim]"

/-- The outcome of a run, whose files are in a directory. -/
def run (run : Run) (name directory : String) : List Printed :=
  let blueprint := run.blueprint
  [.line "[green]Status:[/green] completed",
    .line s!"[green]Run ID:[/green] {name}",
    .line s!"[green]Phase:[/green] {label run.phase}",
    .line s!"[green]Completeness:[/green] {percent run.completeness}",
    .line s!"[green]Blueprint:[/green] {blueprint.title}",
    .line (s!"[green]Cost:[/green] ${Number.grouped blueprint.cost.total.firstYear} first year, "
      ++ s!"payback {blueprint.projection.paybackMonths} months, "
      ++ s!"three-year ROI {blueprint.projection.percent}%"),
    .line s!"\n[bold]Graphs ({run.graphs.length}):[/bold]"]
    ++ run.graphs.map graphLine
    ++ (if run.recommendations.isEmpty then []
      else .line "\n[bold]Related templates:[/bold]"
        :: run.recommendations.map recommendationLine)
    ++ [.line s!"\n[bold]Output saved to:[/bold] {directory}"]

end Printed

end Flowplan.Cli
