import AppBundle.Code.Literal
import AppBundle.Generated.Basic

/-!
# The script that hosts a payload

The script in which a payload is loaded when a program hosts it. It makes the context, loads the
payload, tells what registry was published, and then carries out one command after the other.

Without a module that provides the context it makes a plain one: members that only show something
are told to the bundler, and members that ask for something answer as if nothing was there.
-/

namespace AppBundle

/-- The file of the script. -/
def hostFile : String := "_melker_driver.js"

/-- A member of the plain context whose calls are told to the bundler. -/
def toldMember (name : String) : String × String :=
  (name,
    "(...args) => send(\x7b type: \"context\", member: \"" ++ Code.escape name ++ "\", args \x7d)")

/-- The members of the plain context. -/
def plainContext : List (String × String) := [
  ("getElementById", "() => undefined"),
  toldMember "render",
  toldMember "forceRender",
  ("exit", "() => Deno.exit(0)"),
  ("quit", "() => Deno.exit(0)"),
  toldMember "setTitle",
  toldMember "alert",
  ("confirm", "() => false"),
  ("prompt", "() => null"),
  toldMember "copyToClipboard",
  toldMember "openBrowser",
  ("logger", "\x7b debug: console.error, info: console.error, warn: console.error, error: console.error \x7d"),
  ("exports", "\x7b\x7d"),
  ("url", "context.url"),
  ("dirname", "context.dirname")]

/-- The lines of the script up to the members of the plain context. -/
def hostScriptStart : List String := [
  "const MARKER = \"\\u0001melker \";",
  "const send = (message) => console.log(MARKER + JSON.stringify(message));",
  "const failure = (e) => (\x7b message: String(e?.message ?? e), stack: String(e?.stack ?? \"\") \x7d);",
  "const [payloadUrl, contextJson] = Deno.args;",
  "const context = JSON.parse(contextJson);",
  "",
  "let $melker;",
  "if (context.capabilities) \x7b",
  "  const mod = await import(context.capabilities);",
  "  $melker = mod.default ?? mod.$melker;",
  "\x7d else \x7b",
  "  $melker = \x7b"]

/-- The lines of the script behind the members of the plain context. -/
def hostScriptEnd : List String := [
  "  \x7d;",
  "\x7d",
  "$melker.url ??= context.url;",
  "$melker.dirname ??= context.dirname;",
  "$melker.exports ??= \x7b\x7d;",
  "globalThis.$melker = $melker;",
  "globalThis.argv = context.argv;",
  "",
  "try \x7b",
  "  await import(payloadUrl);",
  "\x7d catch (e) \x7b",
  "  send(\x7b type: \"failed\", ...failure(e) \x7d);",
  "  Deno.exit(0);",
  "\x7d",
  "",
  "const registry = globalThis." ++ registryName ++ ";",
  "if (!registry || typeof registry !== \"object\") \x7b",
  "  send(\x7b type: \"malformed\" \x7d);",
  "\x7d else \x7b",
  "  send(\x7b",
  "    type: \"loaded\",",
  "    init: typeof registry.init === \"function\",",
  "    ready: typeof registry.ready === \"function\",",
  "    handlers: Object.keys(registry).filter((k) => k !== \"init\" && k !== \"ready\" && typeof registry[k] === \"function\"),",
  "  \x7d);",
  "\x7d",
  "",
  "const handle = async (command) => \x7b",
  "  if (command.type === \"close\") Deno.exit(0);",
  "  const fn = registry?.[command.member];",
  "  if (typeof fn !== \"function\") \x7b",
  "    send(\x7b type: \"failed\", message: `No registry member $\x7bcommand.member\x7d`, stack: \"\" \x7d);",
  "    return;",
  "  \x7d",
  "  try \x7b",
  "    await fn(command.event ?? undefined);",
  "    send(\x7b type: \"done\" \x7d);",
  "  \x7d catch (e) \x7b",
  "    send(\x7b type: \"failed\", ...failure(e) \x7d);",
  "  \x7d",
  "\x7d;",
  "",
  "let buffer = \"\";",
  "for await (const chunk of Deno.stdin.readable.pipeThrough(new TextDecoderStream())) \x7b",
  "  buffer += chunk;",
  "  let newline;",
  "  while ((newline = buffer.indexOf(\"\\n\")) >= 0) \x7b",
  "    const line = buffer.slice(0, newline);",
  "    buffer = buffer.slice(newline + 1);",
  "    if (line.trim()) await handle(JSON.parse(line));",
  "  \x7d",
  "\x7d"]

/-- The script. -/
def hostScript : String :=
  let members := plainContext.map fun (name, value) => "    " ++ name ++ ": " ++ value ++ ","
  String.join ((hostScriptStart ++ members ++ hostScriptEnd).map (· ++ "\n"))

end AppBundle
