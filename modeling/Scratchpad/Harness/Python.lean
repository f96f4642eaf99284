/-!
The program around a snippet of Python. The last statement of the snippet is taken off and evaluated
by itself if it is an expression; the snippet has a name space of its own, in which the probes are
evaluated too.
-/

set_option autoImplicit false
set_option relaxedAutoImplicit false

namespace Scratchpad.Harness

def pythonLines : List String :=
  ["import ast",
   "import builtins",
   "import json",
   "import sys",
   "import traceback",
   "import warnings",
   "",
   "_START = @@START@@",
   "_END = @@END@@",
   "_CODE = @@CODE@@",
   "_PROBES = json.loads(@@PROBES@@)",
   "_PACKAGES = @@PACKAGES@@",
   "_FILENAME = \"<snippet>\"",
   "",
   "if _PACKAGES not in sys.path:",
   "    sys.path.insert(0, _PACKAGES)",
   "",
   "_output = []",
   "_real_stdout = sys.stdout",
   "_real_stderr = sys.stderr",
   "_real_print = builtins.print",
   "",
   "",
   "def _record(kind, text):",
   "    _output.append(\x7b\"kind\": kind, \"text\": text\x7d)",
   "",
   "",
   "class _Capture:",
   "    def __init__(self, kind):",
   "        self.kind = kind",
   "        self.pending = \"\"",
   "",
   "    def write(self, text):",
   "        text = str(text)",
   "        self.pending += text",
   "        while \"\\n\" in self.pending:",
   "            line, self.pending = self.pending.split(\"\\n\", 1)",
   "            _record(self.kind, line)",
   "        return len(text)",
   "",
   "    def flush(self):",
   "        if self.pending:",
   "            _record(self.kind, self.pending)",
   "            self.pending = \"\"",
   "",
   "    def isatty(self):",
   "        return False",
   "",
   "    @property",
   "    def encoding(self):",
   "        return \"utf-8\"",
   "",
   "",
   "_stdout = _Capture(\"log\")",
   "_stderr = _Capture(\"error\")",
   "",
   "",
   "def _print(*args, sep=\" \", end=\"\\n\", file=None, flush=False):",
   "    if file is None or file is _stdout or file is _stderr:",
   "        target = _stderr if file is _stderr else _stdout",
   "        target.flush()",
   "        _record(target.kind, (\" \" if sep is None else sep).join(str(arg) for arg in args))",
   "        return",
   "    _real_print(*args, sep=sep, end=end, file=file, flush=flush)",
   "",
   "",
   "def _showwarning(message, category, filename, lineno, file=None, line=None):",
   "    _record(\"warn\", f\"\x7bcategory.__name__\x7d: \x7bmessage\x7d\")",
   "",
   "",
   "def _safe(value):",
   "    try:",
   "        return json.loads(json.dumps(value, allow_nan=False))",
   "    except Exception:",
   "        return \"[Unserializable: \" + type(value).__name__ + \"]\"",
   "",
   "",
   "def _describe(exc):",
   "    stack = \"\".join(traceback.format_exception(type(exc), exc, exc.__traceback__))",
   "    return \x7b\"message\": str(exc) or type(exc).__name__, \"stack\": stack\x7d",
   "",
   "",
   "def _run():",
   "    result = \x7b\"output\": _output, \"error\": None, \"probes\": []\x7d",
   "    namespace = \x7b\"__name__\": \"__main__\", \"__builtins__\": builtins, \"__file__\": _FILENAME\x7d",
   "    sys.stdout = _stdout",
   "    sys.stderr = _stderr",
   "    builtins.print = _print",
   "    warnings.showwarning = _showwarning",
   "    try:",
   "        try:",
   "            tree = ast.parse(_CODE, filename=_FILENAME, mode=\"exec\")",
   "            tail = None",
   "            if tree.body and isinstance(tree.body[-1], ast.Expr):",
   "                tail = ast.Expression(tree.body.pop().value)",
   "            exec(compile(tree, _FILENAME, \"exec\"), namespace)",
   "            if tail is not None:",
   "                value = eval(compile(tail, _FILENAME, \"eval\"), namespace)",
   "                if value is not None:",
   "                    result[\"value\"] = _safe(value)",
   "        except SystemExit as exc:",
   "            if exc.code not in (None, 0):",
   "                result[\"error\"] = \x7b\"message\": f\"SystemExit: \x7bexc.code\x7d\"\x7d",
   "        except BaseException as exc:",
   "            result[\"error\"] = _describe(exc)",
   "        for line, expression in _PROBES:",
   "            entry = \x7b\"line\": line, \"expression\": expression, \"value\": None\x7d",
   "            try:",
   "                entry[\"value\"] = _safe(eval(expression, namespace))",
   "            except BaseException as exc:",
   "                entry[\"error\"] = f\"\x7btype(exc).__name__\x7d: \x7bexc\x7d\"",
   "            result[\"probes\"].append(entry)",
   "    finally:",
   "        _stdout.flush()",
   "        _stderr.flush()",
   "        sys.stdout = _real_stdout",
   "        sys.stderr = _real_stderr",
   "        builtins.print = _real_print",
   "    return result",
   "",
   "",
   "def _emit(result):",
   "    try:",
   "        body = json.dumps(result, allow_nan=False)",
   "    except Exception as exc:",
   "        error = result.get(\"error\") or \x7b\"message\": f\"Result could not be serialized: \x7bexc\x7d\"\x7d",
   "        body = json.dumps(\x7b\"output\": _output, \"error\": error\x7d)",
   "    out = sys.__stdout__ or _real_stdout",
   "    out.write(_START + \"\\n\" + body + \"\\n\" + _END + \"\\n\")",
   "    out.flush()",
   "",
   "",
   "try:",
   "    _result = _run()",
   "except BaseException as _exc:",
   "    _result = \x7b\"output\": _output, \"error\": _describe(_exc), \"probes\": []\x7d",
   "_emit(_result)"]

end Scratchpad.Harness
