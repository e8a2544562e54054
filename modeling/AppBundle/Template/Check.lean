import AppBundle.Template.Splice

/-!
# Checking a template

Every handler that has a place in the template should be called from it exactly once.
-/

namespace AppBundle

/-- How a call of a handler begins. -/
def Handler.callStart (h : Handler) : String :=
  registryName ++ "." ++ h.id ++ "("

/-- The number of calls of a handler in a template. -/
def Handler.calls (h : Handler) (template : String) : Nat :=
  Text.count h.callStart.toList template.toList

/-- The diagnostic about a handler that is not called exactly once. -/
def Handler.callDiagnostic (h : Handler) (calls : Nat) : Diagnostic :=
  .warningOn
    (h.attr ++ " on <" ++ h.element.tag ++ "> at line " ++ decimal h.element.line)
    ("Handler `" ++ h.id ++ "` is referenced " ++ decimal calls
      ++ " times in the template (expected 1)")

/-- The diagnostic about a handler, unless it is called exactly once. -/
def Handler.checkCalls (template : String) (h : Handler) : Option Diagnostic :=
  let calls := h.calls template
  if calls = 1 then none else some (h.callDiagnostic calls)

/-- The diagnostics about handlers that are not called exactly once. -/
def checkHandlers (template : String) (hs : List Handler) : List Diagnostic :=
  (hs.filter (!·.isSignIn)).filterMap (Handler.checkCalls template)

end AppBundle
