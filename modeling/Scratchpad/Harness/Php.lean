/-!
The program around a snippet of PHP. The output of each statement is moved out of the output buffer
as the statement ends. A snippet has no value of its own.
-/

set_option autoImplicit false
set_option relaxedAutoImplicit false

namespace Scratchpad.Harness

def phpLines : List String :=
  ["<?php",
   "final class __RunboxHarness",
   "\x7b",
   "    const START = @@START@@;",
   "    const END = @@END@@;",
   "    const PACKAGES = @@PACKAGES@@;",
   "",
   "    public static $output = [];",
   "    public static $error = null;",
   "    public static $probes = [];",
   "    public static $level = 0;",
   "    public static $probing = false;",
   "    public static $emitted = false;",
   "",
   "    public static function code()",
   "    \x7b",
   "        $code = @@CODE@@;",
   "        $trimmed = ltrim($code);",
   "        if (strncmp($trimmed, '<?php', 5) === 0 || strncmp($trimmed, '<?=', 3) === 0) \x7b",
   "            $code = '?>' . $trimmed;",
   "        \x7d",
   "        return 'declare(ticks=1);' . $code;",
   "    \x7d",
   "",
   "    public static function probes()",
   "    \x7b",
   "        return @@PROBES@@;",
   "    \x7d",
   "",
   "    public static function record($kind, $text)",
   "    \x7b",
   "        self::$output[] = ['kind' => $kind, 'text' => rtrim((string) $text, \"\\r\\n\")];",
   "    \x7d",
   "",
   "    public static function flush()",
   "    \x7b",
   "        if (self::$level === 0 || ob_get_level() !== self::$level) \x7b",
   "            return;",
   "        \x7d",
   "        $text = ob_get_contents();",
   "        if ($text !== false && $text !== '') \x7b",
   "            ob_clean();",
   "            self::record('log', $text);",
   "        \x7d",
   "    \x7d",
   "",
   "    public static function onError($severity, $message, $file = '', $line = 0)",
   "    \x7b",
   "        if (!(error_reporting() & $severity)) \x7b",
   "            return false;",
   "        \x7d",
   "        if (self::$probing) \x7b",
   "            throw new \\ErrorException($message, 0, $severity, $file, $line);",
   "        \x7d",
   "        self::flush();",
   "        switch ($severity) \x7b",
   "            case E_USER_ERROR:",
   "            case E_RECOVERABLE_ERROR:",
   "                $kind = 'error';",
   "                break;",
   "            case E_NOTICE:",
   "            case E_USER_NOTICE:",
   "            case E_DEPRECATED:",
   "            case E_USER_DEPRECATED:",
   "                $kind = 'info';",
   "                break;",
   "            default:",
   "                $kind = 'warn';",
   "        \x7d",
   "        self::record($kind, $message . ' on line ' . $line);",
   "        return true;",
   "    \x7d",
   "",
   "    public static function describe($e)",
   "    \x7b",
   "        return [",
   "            'message' => $e->getMessage(),",
   "            'stack' => get_class($e) . ': ' . $e->getMessage() . \"\\n\" . $e->getTraceAsString(),",
   "        ];",
   "    \x7d",
   "",
   "    public static function safe($value)",
   "    \x7b",
   "        $json = json_encode($value, JSON_INVALID_UTF8_SUBSTITUTE | JSON_PRESERVE_ZERO_FRACTION);",
   "        if ($json === false) \x7b",
   "            $type = is_object($value) ? get_class($value) : gettype($value);",
   "            return '[Unserializable: ' . $type . ']';",
   "        \x7d",
   "        return json_decode($json);",
   "    \x7d",
   "",
   "    public static function finish()",
   "    \x7b",
   "        if (self::$emitted) \x7b",
   "            return;",
   "        \x7d",
   "        self::$emitted = true;",
   "        while (self::$level > 0 && ob_get_level() > self::$level) \x7b",
   "            ob_end_flush();",
   "        \x7d",
   "        self::flush();",
   "        if (self::$level > 0 && ob_get_level() === self::$level) \x7b",
   "            ob_end_clean();",
   "        \x7d",
   "        $last = error_get_last();",
   "        $fatal = [E_ERROR, E_PARSE, E_CORE_ERROR, E_COMPILE_ERROR];",
   "        if (self::$error === null && $last !== null && in_array($last['type'], $fatal, true)) \x7b",
   "            self::$error = ['message' => $last['message']];",
   "        \x7d",
   "        $flags = JSON_INVALID_UTF8_SUBSTITUTE | JSON_PRESERVE_ZERO_FRACTION | JSON_UNESCAPED_SLASHES;",
   "        $body = json_encode(['output' => self::$output, 'error' => self::$error, 'probes' => self::$probes], $flags);",
   "        if ($body === false) \x7b",
   "            $error = self::$error !== null",
   "                ? self::$error",
   "                : ['message' => 'Result could not be serialized: ' . json_last_error_msg()];",
   "            $body = json_encode(['output' => self::$output, 'error' => $error], $flags);",
   "        \x7d",
   "        fwrite(STDOUT, self::START . \"\\n\" . $body . \"\\n\" . self::END . \"\\n\");",
   "    \x7d",
   "\x7d",
   "",
   "set_include_path(__RunboxHarness::PACKAGES . PATH_SEPARATOR . get_include_path());",
   "if (is_file(__RunboxHarness::PACKAGES . '/vendor/autoload.php')) \x7b",
   "    require_once __RunboxHarness::PACKAGES . '/vendor/autoload.php';",
   "\x7d",
   "",
   "register_shutdown_function(['__RunboxHarness', 'finish']);",
   "set_error_handler(['__RunboxHarness', 'onError']);",
   "ob_start();",
   "__RunboxHarness::$level = ob_get_level();",
   "register_tick_function(['__RunboxHarness', 'flush']);",
   "",
   "try \x7b",
   "    eval(__RunboxHarness::code());",
   "\x7d catch (\\Throwable $__runboxError) \x7b",
   "    __RunboxHarness::flush();",
   "    __RunboxHarness::$error = __RunboxHarness::describe($__runboxError);",
   "\x7d",
   "__RunboxHarness::flush();",
   "unregister_tick_function(['__RunboxHarness', 'flush']);",
   "",
   "__RunboxHarness::$probing = true;",
   "foreach (__RunboxHarness::probes() as $__runboxProbe) \x7b",
   "    $__runboxEntry = ['line' => $__runboxProbe[0], 'expression' => $__runboxProbe[1], 'value' => null];",
   "    try \x7b",
   "        $__runboxEntry['value'] = __RunboxHarness::safe(eval('return ' . $__runboxProbe[1] . \";\\n\"));",
   "    \x7d catch (\\Throwable $__runboxError) \x7b",
   "        $__runboxEntry['error'] = $__runboxError->getMessage();",
   "    \x7d",
   "    __RunboxHarness::flush();",
   "    __RunboxHarness::$probes[] = $__runboxEntry;",
   "\x7d",
   "__RunboxHarness::$probing = false;",
   "",
   "__RunboxHarness::finish();"]

end Scratchpad.Harness
