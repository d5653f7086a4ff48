import ReducerAtlas.Text.Split

/-!
# Usage and help

The words of the command line about itself.

* `usageText`: how the program is called; `helpText`: what each option does.
-/

namespace ReducerAtlas.Command

open ReducerAtlas.Text

/-- The name of the program. -/
def programName : String := "redux-mapper"

/-- How the program is called. -/
def usageLines : List String := [
  "usage: redux-mapper [-a MAINAPPPATH] [-b BASEPATH] [-c CONTAINERPATHS]",
  "                    [-f ACTIONFILENAMES] [-d] [-g GLOBALREDUCERSOUTPUTPATH]",
  "                    [-h] [-i IGNOREPATHS] [-m REDUCERMAPOUTPUTPATH]",
  "                    [-r REDUXPATHS] [-s SAGAFILENAME] [-v]"]

/-- What each option does, and examples. -/
def helpLines : List String := [
  "",
  "Generates a global and a component specific mapping file, removing the need to list " ++
    "by hand all reducers a route needs when using hot module reloading. Each reducer " ++
    "definition file must contain a PRM_REDUCER_NAME constant naming the reducer state " ++
    "member.",
  "",
  "options:",
  "  -a MAINAPPPATH, --mainAppPath MAINAPPPATH",
  "                        the path to the app's main JS/JSX file. Any reducers",
  "                        used by this file are considered global",
  "  -b BASEPATH, --basePath BASEPATH",
  "                        the path to the root of the project's client-side",
  "                        script files",
  "  -c CONTAINERPATHS, --containerPaths CONTAINERPATHS",
  "                        comma-separated folders (from base path) containing",
  "                        files which can be a route destination",
  "  -f ACTIONFILENAMES, --actionFilenames ACTIONFILENAMES",
  "                        (optional) comma-separated filenames which, if",
  "                        imported from a folder containing a reducer, mean the",
  "                        reducer is in use. If omitted, action files must",
  "                        contain a PRM_ACTION_FILE_FOR_REDUCER definition",
  "  -d, --disableCache    (optional) disable the traversal cache, which is",
  "                        useful for debugging",
  "  -g GLOBALREDUCERSOUTPUTPATH, --globalReducersOutputPath GLOBALREDUCERSOUTPUTPATH",
  "                        the output path for the globalReducers.js file",
  "  -h, --showHelp        (optional) show this help message",
  "  -i IGNOREPATHS, --ignorePaths IGNOREPATHS",
  "                        (optional) regular expression of paths/filenames to",
  "                        ignore (e.g. __tests__)",
  "  -m REDUCERMAPOUTPUTPATH, --reducerMapOutputPath REDUCERMAPOUTPUTPATH",
  "                        the output path for the reducerMap.js file",
  "  -r REDUXPATHS, --reduxPaths REDUXPATHS",
  "                        comma-separated root folders under which all the redux",
  "                        reducers can be found",
  "  -s SAGAFILENAME, --sagaFilename SAGAFILENAME",
  "                        (optional) the filename holding each reducer's sagas",
  "                        (e.g. sagas.js). Specify an empty string if you don't",
  "                        use sagas",
  "  -v, --verboseLogging  (optional) turn on verbose logging",
  "",
  "Any option not given on the command line is read from the \"config\" mapping",
  "of redux-mapper.json (or redux-mapper.yaml) in the project root.",
  "",
  "Examples:",
  "  redux-mapper -b app -a app.jsx -c containers -r redux -f actions.js \\",
  "               -g generated/globalReducers.js -m generated/reducerMap.js",
  "  redux-mapper -v                    # all options from redux-mapper.json",
  "        "]

/-- The usage, each line ended. -/
def usageText : String :=
  joinWith "\n" (usageLines ++ [""])

/-- The help, each line ended. -/
def helpText : String :=
  joinWith "\n" (usageLines ++ helpLines ++ [""])

end ReducerAtlas.Command
