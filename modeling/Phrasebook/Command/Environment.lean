/-! The environment in which the program runs: the variables that it looks at.
-/

namespace Phrasebook.Command

/-- The values of environment variables. -/
abbrev Environment :=
  List (String × String)

/-- The value of a variable, if it is set. -/
def Environment.get? (environment : Environment) (name : String) : Option String :=
  environment.lookup name

/-- Whether a variable is set, to whatever value. -/
def Environment.has (environment : Environment) (name : String) : Bool :=
  (environment.get? name).isSome

/-- Whether a variable is set to one of the values. -/
def Environment.isOneOf (environment : Environment) (name : String) (values : List String)
    : Bool :=
  ((environment.get? name).map values.contains).getD false

/-- Whether a variable is set to anything but zero. -/
def Environment.isOn (environment : Environment) (name : String) : Bool :=
  ((environment.get? name).map (· != "0")).getD false

/-- The variable that names the dictionary if no option does. -/
def dictionaryVariable : String :=
  "KEYTEXT_DICT"

/-- The variables that a service for continuous integration sets. -/
def serviceVariables : List String := [
  "CI_NAME", "GITHUB_ACTION", "GITLAB_CI", "NETLIFY", "TRAVIS", "CODEBUILD_SRC_DIR",
  "BUILDER_OUTPUT", "GITLAB_DEPLOYMENT", "NOW_GITHUB_DEPLOYMENT", "NOW_BUILDER",
  "BITBUCKET_DEPLOYMENT", "GERRIT_PROJECT", "SYSTEM_TEAMFOUNDATIONCOLLECTIONURI", "BITRISE_IO",
  "BUDDY_WORKSPACE_ID", "BUILDKITE", "CIRRUS_CI", "APPVEYOR", "CIRCLECI", "SEMAPHORE", "DRONE",
  "DSARI", "TDDIUM", "STRIDER", "TASKCLUSTER_ROOT_URL", "JENKINS_URL", "bamboo.buildKey",
  "GO_PIPELINE_NAME", "HUDSON_URL", "WERCKER", "MAGNUM", "NEVERCODE", "RENDER", "SAIL_CI",
  "SHIPPABLE"]

/-- Whether the program runs in a service for continuous integration. -/
def Environment.isService (environment : Environment) : Bool :=
  environment.isOneOf "CI" ["true", "1", "woodpecker"]
    || serviceVariables.any environment.has
    || ((environment.get? "NODE").map fun path =>
      "//heroku/node/bin/node".toList.isSuffixOf path.toList).getD false

/-- The variables that the program looks at. -/
def variableNames : List String :=
  [dictionaryVariable, "FORCE_COLOR", "CLICOLOR_FORCE", "NO_COLOR", "CLICOLOR", "COLORTERM",
    "TERM", "TERM_PROGRAM", "IGNORE_IS_TERMINAL", "CI", "NODE"] ++ serviceVariables

end Phrasebook.Command
