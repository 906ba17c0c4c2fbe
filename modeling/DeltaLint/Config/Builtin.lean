import DeltaLint.Linter

/-
  DeltaLint.Config.Builtin — the linters for a repository without a configuration of its own.
-/

namespace DeltaLint.Config

/-- The name of the file and a colon, then the number of the line between this colon and the next. -/
def colonFilter : String := "^[^:]+:(%(lines)s):"

def pylint : Linter :=
  ⟨"pylint", "pylint", ["--output-format=parseable", "--reports=n", "--score=n"], colonFilter,
    some "Run pip install pylint."⟩

def pycodestyle : Linter := ⟨"pycodestyle", "pycodestyle", [], colonFilter, some "Run pip install pycodestyle."⟩

def eslint : Linter := ⟨"eslint", "eslint", ["--format=unix"], colonFilter, some "Run npm install -g eslint."⟩

def csslint : Linter :=
  ⟨"csslint", "csslint", ["--format=compact"], "^[^:]+: line (%(lines)s),", some "Run npm install -g csslint."⟩

def shellcheck : Linter :=
  ⟨"shellcheck", "shellcheck", ["--format=gcc"], colonFilter,
    some "See https://github.com/koalaman/shellcheck#installing."⟩

def rubocop : Linter := ⟨"rubocop", "rubocop", ["--format=emacs"], colonFilter, some "Run gem install rubocop."⟩

def yamllint : Linter := ⟨"yamllint", "yamllint", ["--format=parsable"], colonFilter, some "Run pip install yamllint."⟩

def builtin : Registry :=
  .ofList [(".py", pylint), (".py", pycodestyle), (".js", eslint), (".jsx", eslint), (".ts", eslint),
    (".tsx", eslint), (".css", csslint), (".sh", shellcheck), (".bash", shellcheck), (".rb", rubocop),
    (".yaml", yamllint), (".yml", yamllint)]

end DeltaLint.Config
