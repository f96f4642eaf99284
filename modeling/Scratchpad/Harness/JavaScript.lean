/-!
The program around a snippet of JavaScript. The snippet runs in the global scope, so that its last
value and its bindings can be read afterwards; the console is taken over while it runs, and the
report is written when nothing is left to do.
-/

set_option autoImplicit false
set_option relaxedAutoImplicit false

namespace Scratchpad.Harness

def javaScriptLines : List String :=
  ["const __rbVm = require('vm');",
   "const __rbUtil = require('util');",
   "",
   "const __RB_START = @@START@@;",
   "const __RB_END = @@END@@;",
   "const __rbCode = @@CODE@@;",
   "const __rbProbes = @@PROBES@@;",
   "const __rbPackages = @@PACKAGES@@;",
   "",
   "const __rb = \x7b output: [], error: null, probes: [], hasValue: false, value: undefined, emitted: false \x7d;",
   "",
   "module.paths.unshift(__rbPackages);",
   "globalThis.require = require;",
   "",
   "function __rbRecord(kind, args) \x7b",
   "  let text;",
   "  try \x7b",
   "    text = __rbUtil.format(...args);",
   "  \x7d catch (err) \x7b",
   "    text = '[unformattable output]';",
   "  \x7d",
   "  __rb.output.push(\x7b kind, text \x7d);",
   "\x7d",
   "",
   "for (const kind of ['log', 'info', 'warn', 'error', 'debug', 'trace']) \x7b",
   "  const target = kind === 'debug' || kind === 'trace' ? 'log' : kind;",
   "  console[kind] = (...args) => __rbRecord(target, args);",
   "\x7d",
   "console.dir = (obj, options) => __rbRecord('log', [__rbUtil.inspect(obj, options)]);",
   "console.table = (data) => __rbRecord('log', [__rbUtil.inspect(data)]);",
   "",
   "function __rbSafe(value) \x7b",
   "  if (value === undefined) return undefined;",
   "  if (typeof value === 'function' || typeof value === 'symbol') \x7b",
   "    return '[Unserializable: ' + typeof value + ']';",
   "  \x7d",
   "  if (typeof value === 'bigint') return value.toString();",
   "  try \x7b",
   "    const text = JSON.stringify(value);",
   "    return text === undefined ? null : JSON.parse(text);",
   "  \x7d catch (err) \x7b",
   "    const ctor = value && value.constructor && value.constructor.name;",
   "    return '[Unserializable: ' + (ctor || typeof value) + ']';",
   "  \x7d",
   "\x7d",
   "",
   "function __rbError(err) \x7b",
   "  if (err && typeof err === 'object' && typeof err.message === 'string') \x7b",
   "    const described = \x7b message: err.message \x7d;",
   "    if (typeof err.stack === 'string') described.stack = err.stack;",
   "    return described;",
   "  \x7d",
   "  try \x7b",
   "    return \x7b message: String(err) \x7d;",
   "  \x7d catch (_) \x7b",
   "    return \x7b message: 'Unknown error' \x7d;",
   "  \x7d",
   "\x7d",
   "",
   "function __rbEmit() \x7b",
   "  if (__rb.emitted) return;",
   "  __rb.emitted = true;",
   "  let body;",
   "  try \x7b",
   "    const payload = \x7b output: __rb.output, error: __rb.error, probes: __rb.probes \x7d;",
   "    if (__rb.hasValue) payload.value = __rbSafe(__rb.value);",
   "    body = JSON.stringify(payload);",
   "  \x7d catch (err) \x7b",
   "    body = JSON.stringify(\x7b",
   "      output: __rb.output,",
   "      error: __rb.error || \x7b message: 'Result could not be serialized: ' + __rbError(err).message \x7d,",
   "    \x7d);",
   "  \x7d",
   "  process.stdout.write(__RB_START + '\\n' + body + '\\n' + __RB_END + '\\n');",
   "\x7d",
   "",
   "process.on('uncaughtException', (err) => \x7b",
   "  if (!__rb.error) __rb.error = __rbError(err);",
   "\x7d);",
   "process.on('unhandledRejection', (reason) => \x7b",
   "  if (!__rb.error) __rb.error = __rbError(reason);",
   "\x7d);",
   "process.on('beforeExit', __rbEmit);",
   "process.on('exit', __rbEmit);",
   "",
   "let __rbCompletion;",
   "try \x7b",
   "  __rbCompletion = __rbVm.runInThisContext(__rbCode, \x7b filename: 'snippet.js' \x7d);",
   "  __rb.hasValue = true;",
   "\x7d catch (err) \x7b",
   "  __rb.error = __rbError(err);",
   "\x7d",
   "",
   "for (const probe of __rbProbes) \x7b",
   "  const entry = \x7b line: probe.line, expression: probe.expression, value: null \x7d;",
   "  try \x7b",
   "    const value = __rbSafe(__rbVm.runInThisContext('(' + probe.expression + '\\n)', \x7b filename: 'probe.js' \x7d));",
   "    entry.value = value === undefined ? null : value;",
   "  \x7d catch (err) \x7b",
   "    entry.error = __rbError(err).message;",
   "  \x7d",
   "  __rb.probes.push(entry);",
   "\x7d",
   "",
   "if (__rb.hasValue && __rbCompletion && typeof __rbCompletion.then === 'function') \x7b",
   "  __rb.hasValue = false;",
   "  Promise.resolve(__rbCompletion).then(",
   "    (value) => \x7b",
   "      __rb.value = value;",
   "      __rb.hasValue = true;",
   "    \x7d,",
   "    (err) => \x7b",
   "      if (!__rb.error) __rb.error = __rbError(err);",
   "    \x7d,",
   "  );",
   "\x7d else \x7b",
   "  __rb.value = __rbCompletion;",
   "\x7d"]

end Scratchpad.Harness
