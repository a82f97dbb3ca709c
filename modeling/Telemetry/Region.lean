/-!
# Administrative regions

Charge devices stand in administrative regions, which are known by numeric area codes.

* `Region`             a code and its province, city and county;
* `RegionTable`        the codes in a fixed order, and what each code resolves to;
* `RegionTable.ofRows` the table that looks codes up in a list, first entry first;
* `RegionTable.builtIn` the codes of 24 counties.
-/

namespace Telemetry

/-- a resolved area code -/
structure Region where
  code : UInt32
  province : String
  city : String
  county : String
deriving DecidableEq, Repr

/-- area codes, and the regions that they resolve to -/
structure RegionTable where
  codes : List UInt32
  lookup : UInt32 → Option Region

namespace RegionTable

def ofRows (codes : List UInt32) (rows : List Region) : RegionTable :=
  ⟨codes, fun code => rows.find? (·.code == code)⟩

/-- the rows of the built-in table, by rising code -/
def builtInRows : List Region :=
  [⟨110101, "Beijing", "Beijing", "Dongcheng"⟩,
   ⟨110105, "Beijing", "Beijing", "Chaoyang"⟩,
   ⟨110108, "Beijing", "Beijing", "Haidian"⟩,
   ⟨120101, "Tianjin", "Tianjin", "Heping"⟩,
   ⟨310101, "Shanghai", "Shanghai", "Huangpu"⟩,
   ⟨310115, "Shanghai", "Shanghai", "Pudong"⟩,
   ⟨320102, "Jiangsu", "Nanjing", "Xuanwu"⟩,
   ⟨320505, "Jiangsu", "Suzhou", "Huqiu"⟩,
   ⟨330106, "Zhejiang", "Hangzhou", "Xihu"⟩,
   ⟨330212, "Zhejiang", "Ningbo", "Yinzhou"⟩,
   ⟨340104, "Anhui", "Hefei", "Shushan"⟩,
   ⟨350203, "Fujian", "Xiamen", "Siming"⟩,
   ⟨370102, "Shandong", "Jinan", "Lixia"⟩,
   ⟨370202, "Shandong", "Qingdao", "Shinan"⟩,
   ⟨410105, "Henan", "Zhengzhou", "Jinshui"⟩,
   ⟨420106, "Hubei", "Wuhan", "Wuchang"⟩,
   ⟨430104, "Hunan", "Changsha", "Yuelu"⟩,
   ⟨440106, "Guangdong", "Guangzhou", "Tianhe"⟩,
   ⟨440305, "Guangdong", "Shenzhen", "Nanshan"⟩,
   ⟨500103, "Chongqing", "Chongqing", "Yuzhong"⟩,
   ⟨510107, "Sichuan", "Chengdu", "Wuhou"⟩,
   ⟨530102, "Yunnan", "Kunming", "Wuhua"⟩,
   ⟨610113, "Shaanxi", "Xi'an", "Yanta"⟩,
   ⟨620102, "Gansu", "Lanzhou", "Chengguan"⟩]

def builtIn : RegionTable := ofRows (builtInRows.map (·.code)) builtInRows

end RegionTable

end Telemetry
