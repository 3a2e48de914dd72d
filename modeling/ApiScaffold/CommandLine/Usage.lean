/-!
# Usage

What the program says about itself when it is asked for help or its version, and when its arguments
ask for nothing that there is.
-/

namespace ApiScaffold.Usage

/-- The name and version of the program. -/
def version : String := "testgen 0.1.0"

/-- **How the program is called.** -/
def text : String :=
  "Usage: testgen generate --schema-path <SCHEMA_PATH> [OPTIONS]\n" ++
  "       testgen init [OPTIONS] [PATH]\n" ++
  "\n" ++
  "Options of generate:\n" ++
  "      --schema-path <SCHEMA_PATH>            Swagger description (YAML or JSON)\n" ++
  "      --config <CONFIG>                      Run configuration file (YAML, JSON or TOML)\n" ++
  "      --output-dir <OUTPUT_DIR>              Output directory [default: test]\n" ++
  "      --test-module <TEST_MODULE>            request or supertest\n" ++
  "      --assertion-format <ASSERTION_FORMAT>  should, expect or assert\n" ++
  "      --path <PATHS>                         Only generate this path (repeatable)\n" ++
  "      --max-len <MAX_LEN>                    Maximum description width\n" ++
  "      --template-dir <TEMPLATE_DIR>          Directory with templates\n" ++
  "\n" ++
  "Options of init:\n" ++
  "      --test-module <TEST_MODULE>            request or supertest [default: supertest]\n"

end ApiScaffold.Usage
