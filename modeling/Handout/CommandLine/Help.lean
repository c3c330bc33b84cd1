/-!
# Help

The texts that the command shows about itself.
-/

namespace Handout.Help

/-- The version of the program. -/
def version : String := "problemify 0.1.0"

/-- **The help text.** Its last line is blank but for spaces. -/
def text : String := "\n".intercalate [
  "usage: problemify [-h] (-p | -s) [--dry-run] [--verbose] [--version] path",
  "",
  "Turn an annotated source tree into its problem or solution variant, in place",
  "",
  "positional arguments:",
  "  path            Root directory to transform (relative to the working",
  "                  directory or absolute)",
  "",
  "options:",
  "  -h, --help      show this help message and exit",
  "  -p, --problem   Produce the problem (exercise) variant",
  "  -s, --solution  Produce the solution variant",
  "  --dry-run       Print what would be deleted or rewritten without touching",
  "                  files",
  "  --verbose, -v   Log every processed file to stderr",
  "  --version       show program's version number and exit",
  "",
  "Markers:",
  "    // START SOLUTION ... // END SOLUTION     removed in problem mode",
  "    /* START PROBLEM ... END PROBLEM */       removed in solution mode",
  "    /* SOLUTION FILE */ (first line)          file deleted in problem mode",
  "    /* PROBLEM FILE */ (first line)           file deleted in solution mode",
  "",
  "Files are modified destructively. Commit or copy the tree first.",
  "        "]

end Handout.Help
