/-!
# The configuration template

The text of a configuration that shows every key, for users to start from.
-/

namespace Sluice.Config

/-- The template. -/
def template : String := "# bw-tunnel configuration

[settings]
# 监听失败后重新监听的间隔（秒）
retry_interval_secs = 5
# 连接远端的超时时间（秒）
connect_timeout_secs = 10

# 每个 [[tunnels]] 定义一条隧道，限速单位为字节/秒
[[tunnels]]
name = \"web\"
listen_at = \"0.0.0.0:8080\"
connect_to = \"127.0.0.1:80\"
tunnel_limit = 1000000
connection_limit = 250000

[[tunnels]]
name = \"database\"
listen_at = \"127.0.0.1:15432\"
connect_to = \"10.0.0.5:5432\"
tunnel_limit = 5000000
connection_limit = 5000000
"

end Sluice.Config
