import TodoCli.Prompt

/-!
# How an invocation fails

An invocation exits with status 0, with status 1 when `main` returns an `Err`, or with status 101
on a panic. Almost every failure names what failed: the program `bail!`s with a message of its
own, or adds a `.context(...)` to the library's error (`Fault.Named`). There are two exceptions,
and `dispatch_failure` says that there are no others. The first is the `unwrap` of
`rpassword_prompt` (`main.rs:218`), which panics when a login or registration without
`--password` cannot read its password (`invoke_panic`; `prompt_unreadable_panics` is the
converse). The second is the `read_line(...)?` of the delete confirmation (`main.rs:175`), which
carries the I/O error up without a context (`invoke_bare_failure`).
-/

namespace TodoCli

end TodoCli
