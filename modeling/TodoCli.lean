import TodoCli.Model.Text
import TodoCli.Model.Json
import TodoCli.Model.Api
import TodoCli.Model.Effect
import TodoCli.Model.Config
import TodoCli.Model.Toml
import TodoCli.Model.Output
import TodoCli.Model.Main
import TodoCli.Wire
import TodoCli.Settings
import TodoCli.Effects
import TodoCli.Session
import TodoCli.Prompt
import TodoCli.Responses
import TodoCli.Listing
import TodoCli.Timestamps
import TodoCli.Exits
import TodoCli.Secrecy
import TodoCli.Model.JsonRead
import TodoCli.JsonText
import TodoCli.Colour
import TodoCli.Compatibility
