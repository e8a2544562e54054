import AppBundle.Text.Search

/-!
# Hints on bundling failures

What to do about a failure, by the words of its message.
-/

namespace AppBundle

/-- Groups of words, with the hint that a message gets if it holds one of them. The first group that
applies counts. -/
def hintTable : List (List String × String) := [
  (["unrecognized subcommand", "unexpected argument '--platform"],
    "This deno has no `deno bundle`; upgrade to Deno 2.4 or later."),
  (["Relative import path", "not prefixed with", "Unsupported scheme"],
    "Bare specifiers need an `npm:` or `jsr:` prefix, or an entry in the import map."),
  (["Module not found", "Could not resolve", "Cannot resolve"],
    "Check the import path. Relative imports resolve against the .melker file's directory."),
  (["SyntaxError", "Unexpected token", "Expected", "Unterminated"],
    "A script block or handler has a syntax error. Fix the code at the reported location."),
  (["Requires read access", "Requires net access", "PermissionDenied", "permission denied"],
    "The bundler lacks a permission it needs (read access to sources or network for remote imports)."),
  (["error sending request", "dns error", "Connection refused", "failed to fetch"],
    "A remote import could not be fetched. Check network access or vendor the dependency.")]

/-- The hint that a message gets. -/
def hint? (message : String) : Option String :=
  (hintTable.find? fun (words, _) => words.any (occursIn · message)).map (·.2)

/-- The hint on bundling that is needed but not possible. -/
def installHint : String :=
  "Install Deno 2.4 or later, or point MELKER_DENO at a deno executable. Scripts that import other modules must be bundled before they can run."

end AppBundle
