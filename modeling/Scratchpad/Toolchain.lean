import Scratchpad.Language

/-!
Where the tools of a language may be found: its interpreter and its package manager.
-/

set_option autoImplicit false
set_option relaxedAutoImplicit false

namespace Scratchpad

namespace Tool

/-- How a version manager lays out what it has installed, below the home directory. -/
structure Manager where
  /-- The directory that holds a directory for each version. -/
  versionsDir : Text
  /-- The tool inside of the directory of a version. -/
  executable : Text

/-- Where a tool may be found. -/
structure Hints where
  /-- The names of the command, the most wanted first. -/
  commands : List Text
  managers : List Manager
  unixPaths : List Text
  windowsPaths : List Text

end Tool

namespace Language

open Text (ofStrings)

def interpreter : Language → Tool.Hints
  | .javaScript => {
      commands := ofStrings ["node"]
      managers := [
        ⟨".nvm/versions/node".toList, "bin/node".toList⟩,
        ⟨".volta/tools/image/node".toList, "bin/node".toList⟩,
        ⟨".local/share/fnm/node-versions".toList, "installation/bin/node".toList⟩]
      unixPaths := ofStrings [
        "/opt/homebrew/bin/node", "/usr/local/bin/node", "/usr/bin/node", "/opt/local/bin/node"]
      windowsPaths := ofStrings [
        "C:\\Program Files\\nodejs\\node.exe", "C:\\Program Files (x86)\\nodejs\\node.exe"] }
  | .python => {
      commands := ofStrings ["python3", "python"]
      managers := [
        ⟨".pyenv/versions".toList, "bin/python3".toList⟩]
      unixPaths := ofStrings [
        "/opt/homebrew/bin/python3", "/usr/local/bin/python3", "/usr/bin/python3",
        "/opt/local/bin/python3"]
      windowsPaths := ofStrings [
        "C:\\Python313\\python.exe", "C:\\Python312\\python.exe", "C:\\Python311\\python.exe",
        "C:\\Windows\\py.exe"] }
  | .php => {
      commands := ofStrings ["php"]
      managers := [
        ⟨".phpenv/versions".toList, "bin/php".toList⟩,
        ⟨".phpbrew/php".toList, "bin/php".toList⟩]
      unixPaths := ofStrings [
        "/opt/homebrew/bin/php", "/usr/local/bin/php", "/usr/bin/php", "/opt/local/bin/php"]
      windowsPaths := ofStrings ["C:\\php\\php.exe", "C:\\tools\\php\\php.exe"] }
  | .ruby => {
      commands := ofStrings ["ruby"]
      managers := [
        ⟨".rbenv/versions".toList, "bin/ruby".toList⟩,
        ⟨".rubies".toList, "bin/ruby".toList⟩,
        ⟨".rvm/rubies".toList, "bin/ruby".toList⟩,
        ⟨".asdf/installs/ruby".toList, "bin/ruby".toList⟩]
      unixPaths := ofStrings [
        "/opt/homebrew/opt/ruby/bin/ruby", "/usr/local/bin/ruby", "/usr/bin/ruby",
        "/opt/local/bin/ruby"]
      windowsPaths := ofStrings ["C:\\Ruby33-x64\\bin\\ruby.exe", "C:\\Ruby32-x64\\bin\\ruby.exe"] }

def packageManager : Language → Tool.Hints
  | .javaScript => {
      commands := ofStrings ["npm"]
      managers := [
        ⟨".nvm/versions/node".toList, "bin/npm".toList⟩]
      unixPaths := ofStrings ["/opt/homebrew/bin/npm", "/usr/local/bin/npm", "/usr/bin/npm"]
      windowsPaths := ofStrings ["C:\\Program Files\\nodejs\\npm.cmd"] }
  | .python => {
      commands := ofStrings ["pip3", "pip"]
      managers := [
        ⟨".pyenv/versions".toList, "bin/pip3".toList⟩]
      unixPaths := ofStrings ["/opt/homebrew/bin/pip3", "/usr/local/bin/pip3", "/usr/bin/pip3"]
      windowsPaths := [] }
  | .php => {
      commands := ofStrings ["composer"]
      managers := []
      unixPaths := ofStrings [
        "/opt/homebrew/bin/composer", "/usr/local/bin/composer", "/usr/bin/composer"]
      windowsPaths := ofStrings ["C:\\ProgramData\\ComposerSetup\\bin\\composer.bat"] }
  | .ruby => {
      commands := ofStrings ["gem"]
      managers := [
        ⟨".rbenv/versions".toList, "bin/gem".toList⟩]
      unixPaths := ofStrings [
        "/opt/homebrew/opt/ruby/bin/gem", "/usr/local/bin/gem", "/usr/bin/gem"]
      windowsPaths := ofStrings ["C:\\Ruby33-x64\\bin\\gem.cmd"] }

end Language

end Scratchpad
