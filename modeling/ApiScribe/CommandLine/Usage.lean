/-!
# Usage and help texts

What the program says about its command line, set for eighty columns.
-/

namespace ApiScribe.CommandLine

/-- Lines as a text. -/
def ofLines (lines : List String) : String := String.join (lines.map (· ++ "\n"))

/-- The name of the program. -/
def program : String := "apiforge"

namespace Usage

/-- How the program is called. -/
def top : List String := ["usage: apiforge [-h] COMMAND ..."]

/-- How the command `generate` is called. -/
def generate : List String :=
  ["usage: apiforge generate [-h] [--heading-tag HEADING_TAG] [--config CONFIG]",
   "                         [--templates TEMPLATES] [--output OUTPUT]",
   "                         document"]

/-- How the command `scrape` is called. -/
def scrape : List String :=
  ["usage: apiforge scrape [-h] [--heading-tag HEADING_TAG] [--output OUTPUT]",
   "                       document"]

/-- How the command `check` is called. -/
def check : List String :=
  ["usage: apiforge check [-h] [--heading-tag HEADING_TAG] document"]

end Usage

namespace Help

/-- What the commands have in common. -/
def documentOptions : List String :=
  ["positional arguments:",
   "  document              HTML API document, or a JSON model written by",
   "                        'apiforge scrape --output'",
   "",
   "options:",
   "  -h, --help            show this help message and exit",
   "  --heading-tag HEADING_TAG",
   "                        Tag whose text names the following table (default: h4)"]

/-- What the program does. -/
def top : List String :=
  ["",
   "apiforge: generate code from HTML API documentation",
   "",
   "positional arguments:",
   "  COMMAND",
   "    generate  Generate code from an API document",
   "    scrape    Print the scraped API model as JSON",
   "    check     Check the scraped API model for consistency",
   "",
   "options:",
   "  -h, --help  show this help message and exit"]

/-- What the command `generate` does. -/
def generate : List String :=
  ["",
   "Scrape an API document and render the configured templates into the output",
   "directory.",
   ""] ++ documentOptions ++
  ["  --config CONFIG       Path to the generation configuration (default:",
   "                        templates/configuration.json)",
   "  --templates TEMPLATES",
   "                        Directory that template paths are relative to",
   "                        (default: directory of the configuration)",
   "  --output OUTPUT       Output directory, recreated on every run (default:",
   "                        generated)"]

/-- What the command `scrape` does. -/
def scrape : List String :=
  ["",
   "Scrape an API document and print (or store) the raw API model as JSON.",
   ""] ++ documentOptions ++
  ["  --output OUTPUT       Write the model to this file instead of printing it"]

/-- What the command `check` does. -/
def check : List String :=
  ["",
   "Report duplicate entities and members and references to unknown types.",
   ""] ++ documentOptions

end Help
end ApiScribe.CommandLine
