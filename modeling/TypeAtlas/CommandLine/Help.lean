/-! # Help texts

What the program says about its own options. Main definitions: `CommandLine.usage`,
`CommandLine.help`. -/

namespace TypeAtlas.CommandLine

/-- One line on how to call the program. -/
def usage : String := "usage: interface-docs [options] -i <input> [-o <output>]\n"

/-- The lines of the help text below the usage line. -/
def helpLines : List String := [
  "",
  "Generate markdown documentation from TypeScript interfaces and types. NOTE:",
  "Only exported interfaces/types are documented.",
  "",
  "options:",
  "  -h, --help            show this help message and exit",
  "  -i INPUT, --input INPUT",
  "                        The input file to read interfaces and types from. Will",
  "                        ignore any code that is not exported or is not an",
  "                        interface or type.",
  "  -o OUTPUT, --output OUTPUT",
  "                        The output file to write markdown to. Defaults to the",
  "                        input file with a .md extension. Use - to write to",
  "                        stdout.",
  "  --format \x7btables,json\x7d",
  "                        The format to output the documentation in (default:",
  "                        tables).",
  "  -f, --force           Overwrite the output file if it already exists.",
  "  -v, --verbose         Print debug information.",
  "  -c CONFIG, --config CONFIG",
  "                        Path to a .interface-docs.yml file (defaults to the",
  "                        input file's directory).",
  "  --log-file LOG_FILE   Also write debug logs to this file."]

/-- The help text. -/
def help : String := usage ++ String.join (helpLines.map (· ++ "\n"))

end TypeAtlas.CommandLine
