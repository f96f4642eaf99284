/-!
The program around a snippet of Ruby. The snippet is evaluated in the binding of the top level, in
which the probes find its variables; both output streams are taken over while it runs.
-/

set_option autoImplicit false
set_option relaxedAutoImplicit false

namespace Scratchpad.Harness

def rubyLines : List String :=
  ["require 'json'",
   "",
   "module RunboxHarness",
   "  START = @@START@@",
   "  STOP = @@END@@",
   "  CODE = @@CODE@@",
   "  PROBES = @@PROBES@@",
   "  PACKAGES = @@PACKAGES@@",
   "  OUTPUT = []",
   "",
   "  def self.record(kind, text)",
   "    text = text.to_s.dup.force_encoding(Encoding::UTF_8).scrub('?')",
   "    OUTPUT << \x7b 'kind' => kind, 'text' => text \x7d",
   "  end",
   "",
   "  class Capture",
   "    def initialize(kind)",
   "      @kind = kind",
   "      @pending = +''",
   "    end",
   "",
   "    def write(*parts)",
   "      text = parts.map(&:to_s).join",
   "      @pending << text",
   "      while (index = @pending.index(\"\\n\"))",
   "        RunboxHarness.record(@kind, @pending[0...index])",
   "        @pending = @pending[(index + 1)..] || +''",
   "      end",
   "      text.bytesize",
   "    end",
   "",
   "    def <<(obj)",
   "      write(obj)",
   "      self",
   "    end",
   "",
   "    def print(*args)",
   "      write(*args)",
   "      nil",
   "    end",
   "",
   "    def puts(*args)",
   "      flush",
   "      args = [''] if args.empty?",
   "      args.flatten.each do |arg|",
   "        RunboxHarness.record(@kind, arg.nil? ? '' : arg.to_s.chomp(\"\\n\"))",
   "      end",
   "      nil",
   "    end",
   "",
   "    def flush",
   "      unless @pending.empty?",
   "        RunboxHarness.record(@kind, @pending)",
   "        @pending = +''",
   "      end",
   "      self",
   "    end",
   "",
   "    def sync",
   "      true",
   "    end",
   "",
   "    def sync=(_value); end",
   "",
   "    def tty?",
   "      false",
   "    end",
   "    alias isatty tty?",
   "  end",
   "",
   "  def self.safe(value)",
   "    JSON.parse(JSON.generate([value]))[0]",
   "  rescue StandardError, SystemStackError",
   "    \"[Unserializable: #\x7bvalue.class\x7d]\"",
   "  end",
   "",
   "  def self.describe(error)",
   "    message = error.message.to_s.scrub('?')",
   "    stack = [\"#\x7berror.class\x7d: #\x7bmessage\x7d\"] + Array(error.backtrace)",
   "    \x7b 'message' => message, 'stack' => stack.join(\"\\n\") \x7d",
   "  end",
   "",
   "  def self.run",
   "    result = \x7b 'output' => OUTPUT, 'error' => nil, 'probes' => [] \x7d",
   "    real_stdout = $stdout",
   "    real_stderr = $stderr",
   "    out = Capture.new('log')",
   "    err = Capture.new('error')",
   "    $stdout = out",
   "    $stderr = err",
   "    begin",
   "      begin",
   "        value = eval(CODE, TOPLEVEL_BINDING, 'snippet.rb', 1)",
   "        result['value'] = safe(value) unless value.nil?",
   "      rescue SystemExit => e",
   "        result['error'] = \x7b 'message' => \"SystemExit: #\x7be.status\x7d\" \x7d unless e.success?",
   "      rescue Exception => e",
   "        result['error'] = describe(e)",
   "      end",
   "      PROBES.each do |line, expression|",
   "        entry = \x7b 'line' => line, 'expression' => expression, 'value' => nil \x7d",
   "        begin",
   "          entry['value'] = safe(eval(expression, TOPLEVEL_BINDING, 'probe.rb', 1))",
   "        rescue Exception => e",
   "          entry['error'] = \"#\x7be.class\x7d: #\x7be.message\x7d\"",
   "        end",
   "        result['probes'] << entry",
   "      end",
   "    ensure",
   "      out.flush",
   "      err.flush",
   "      $stdout = real_stdout",
   "      $stderr = real_stderr",
   "    end",
   "    result",
   "  end",
   "",
   "  def self.emit(result)",
   "    body = begin",
   "      JSON.generate(result)",
   "    rescue StandardError => e",
   "      error = result['error'] || \x7b 'message' => \"Result could not be serialized: #\x7be.message\x7d\" \x7d",
   "      JSON.generate('output' => OUTPUT, 'error' => error)",
   "    end",
   "    STDOUT.write(START + \"\\n\" + body + \"\\n\" + STOP + \"\\n\")",
   "    STDOUT.flush",
   "  end",
   "end",
   "",
   "module Warning",
   "  def self.warn(message, *_rest, **_options)",
   "    RunboxHarness.record('warn', message.to_s.chomp)",
   "    nil",
   "  end",
   "end",
   "",
   "$LOAD_PATH.unshift(RunboxHarness::PACKAGES)",
   "",
   "RunboxHarness.emit(",
   "  begin",
   "    RunboxHarness.run",
   "  rescue Exception => e",
   "    \x7b 'output' => RunboxHarness::OUTPUT, 'error' => RunboxHarness.describe(e), 'probes' => [] \x7d",
   "  end",
   ")"]

end Scratchpad.Harness
