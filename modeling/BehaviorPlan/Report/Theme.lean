import BehaviorPlan.Report.Style

/-! # Named styles

Names for the parts of a console report and of the texts shown in it, each with the description of
the style that it stands for. -/
namespace BehaviorPlan.Report

def theme : List (String × String) := [
  ("bright", "not dim"), ("code", "bold reverse"), ("emphasize", "italic"),
  ("reset", "not bold not dim not italic not underline not blink not blink2 not reverse " ++
    "not conceal not strike default on default"),
  ("strong", "bold"), ("bar.back", "grey23"), ("bar.complete", "rgb(249,38,114)"),
  ("bar.finished", "rgb(114,156,31)"), ("bar.pulse", "rgb(249,38,114)"),
  ("inspect.async_def", "italic bright_cyan"), ("inspect.attr", "italic yellow"),
  ("inspect.attr.dunder", "dim italic yellow"), ("inspect.callable", "bold red"),
  ("inspect.class", "italic bright_cyan"), ("inspect.def", "italic bright_cyan"),
  ("inspect.doc", "dim"), ("inspect.error", "bold red"), ("inspect.help", "cyan"),
  ("inspect.value.border", "green"), ("iso8601.date", "blue"), ("iso8601.time", "magenta"),
  ("iso8601.timezone", "yellow"), ("json.bool_false", "italic bright_red"),
  ("json.bool_true", "italic bright_green"), ("json.brace", "bold"), ("json.key", "bold blue"),
  ("json.null", "italic magenta"), ("json.number", "bold not italic cyan"),
  ("json.str", "not bold not italic green"), ("layout.tree.column", "not dim blue"),
  ("layout.tree.row", "not dim red"), ("live.ellipsis", "bold red"), ("log.path", "dim"),
  ("log.time", "dim cyan"), ("logging.keyword", "bold yellow"),
  ("logging.level.critical", "bold reverse red"), ("logging.level.debug", "green"),
  ("logging.level.error", "bold red"), ("logging.level.info", "blue"),
  ("logging.level.notset", "dim"), ("logging.level.warning", "yellow"),
  ("markdown.block_quote", "magenta"), ("markdown.code", "bold cyan on black"),
  ("markdown.code_block", "cyan on black"), ("markdown.em", "italic"), ("markdown.emph", "italic"),
  ("markdown.h1", "bold underline"), ("markdown.h2", "underline magenta"),
  ("markdown.h3", "bold magenta"), ("markdown.h4", "italic magenta"), ("markdown.h5", "italic"),
  ("markdown.h6", "dim"), ("markdown.h7", "dim italic"), ("markdown.hr", "dim"),
  ("markdown.item.bullet", "bold"), ("markdown.item.number", "cyan"),
  ("markdown.link", "bright_blue"), ("markdown.link_url", "underline blue"),
  ("markdown.list", "cyan"), ("markdown.s", "strike"), ("markdown.strong", "bold"),
  ("markdown.table.border", "cyan"), ("markdown.table.header", "not bold cyan"),
  ("progress.data.speed", "red"), ("progress.download", "green"), ("progress.elapsed", "yellow"),
  ("progress.filesize", "green"), ("progress.filesize.total", "green"),
  ("progress.percentage", "magenta"), ("progress.remaining", "cyan"), ("progress.spinner", "green"),
  ("prompt.choices", "bold magenta"), ("prompt.default", "bold cyan"), ("prompt.invalid", "red"),
  ("prompt.invalid.choice", "red"), ("repr.attrib_equal", "bold"),
  ("repr.attrib_name", "not italic yellow"), ("repr.attrib_value", "not italic magenta"),
  ("repr.bool_false", "italic bright_red"), ("repr.bool_true", "italic bright_green"),
  ("repr.brace", "bold"), ("repr.call", "bold magenta"), ("repr.comma", "bold"),
  ("repr.ellipsis", "yellow"), ("repr.error", "bold red"), ("repr.eui48", "bold bright_green"),
  ("repr.eui64", "bold bright_green"), ("repr.filename", "bright_magenta"),
  ("repr.indent", "dim green"), ("repr.ipv4", "bold bright_green"),
  ("repr.ipv6", "bold bright_green"), ("repr.none", "italic magenta"),
  ("repr.number", "bold not italic cyan"), ("repr.number_complex", "bold not italic cyan"),
  ("repr.path", "magenta"), ("repr.str", "not bold not italic green"),
  ("repr.tag_contents", "default"), ("repr.tag_end", "bold"),
  ("repr.tag_name", "bold bright_magenta"), ("repr.tag_start", "bold"),
  ("repr.url", "not bold not italic underline bright_blue"),
  ("repr.uuid", "not bold bright_yellow"), ("rule.line", "bright_green"), ("scope.border", "blue"),
  ("scope.equals", "red"), ("scope.key", "italic yellow"),
  ("scope.key.special", "dim italic yellow"), ("status.spinner", "green"),
  ("table.caption", "dim italic"), ("table.footer", "bold"), ("table.header", "bold"),
  ("table.title", "italic"), ("traceback.border", "red"),
  ("traceback.border.syntax_error", "bright_red"), ("traceback.error", "italic red"),
  ("traceback.error_range", "bold underline"), ("traceback.exc_type", "bold bright_red"),
  ("traceback.group.border", "magenta"), ("traceback.note", "bold green"),
  ("traceback.offset", "bold bright_red"), ("traceback.title", "bold red")]

/-- The style that a name stands for. -/
def themed? (name : String) : Option Style :=
  match (theme.lookup name).map fun description => Style.read description.toList with
  | some (.ok style) => style
  | _ => none

end BehaviorPlan.Report
