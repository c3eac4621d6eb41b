/-!
# Questions

A question offers four options; the position of an option stands for a category.
-/

namespace Temperament

def optionCount : Nat := 4

structure Question where
  id : UInt32
  title : String
  options : Vector String optionCount
  deriving DecidableEq

namespace Question

/-- The questions about a child's everyday behaviour, in the order they are asked. -/
def builtin : List Question := [
  ⟨1, "遇到新事物时，孩子更常见的反应是：", #v["立刻尝试", "先观察思考", "邀请伙伴一起", "查看规则再做"]⟩,
  ⟨2, "课余时间更偏好：", #v["户外探索", "安静阅读/拼图", "与同伴活动", "完成清单任务"]⟩,
  ⟨3, "遇到挑战时更依赖：", #v["直觉与实践", "分析与计划", "求助与协作", "自律与坚持"]⟩,
  ⟨4, "最能激励TA的是：", #v["新奇与冒险", "问题被解决", "伙伴的认可", "数据化进步"]⟩,
  ⟨5, "在运动上更喜欢：", #v["攀岩/球类", "瑜伽/慢跑", "足球/接力", "跳绳/游泳计时"]⟩]

end Question

end Temperament
